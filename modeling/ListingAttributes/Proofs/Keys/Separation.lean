import ListingAttributes.Proofs.Keys.Components

/-!
# Keys separate products

Keys of different categories differ in what stands before the first colon, or,
for the categories that have no key of their own, in the name behind it.
Within memory modules, drives, processors and network cards a key is taken
apart again, because validation leaves no colon in any component but one: the
capacity of a drive, which stands between such components, and the last
component of a processor or a network card.

* `productKey_ne`: different category names, different keys;
* `ram_key_iff`, `drive_key_iff`, `cpu_key_iff`, `nic_key_iff`: two valid
  records have the same key exactly if their components agree;
* `productKey_separates`: both together.
-/

namespace ListingAttributes

open ProductKey

/-! ### What identifies a product -/

/-- The value of a number field, in units and with its sign; zero if the record states none. -/
def Record.amount (record : Record) (field : String) : Int :=
  match record.number? field with
  | some x => x.signedUnits
  | none => 0

/-- Two records agree on everything that identifies a product of the category. -/
inductive SameProduct : Category → Record → Record → Prop where
  | ram {first second : Record}
      (generation : first.str? "generation" = second.str? "generation")
      (subtype : ramSubtype first = ramSubtype second)
      (capacity : first.amount "capacity_gb" = second.amount "capacity_gb")
      (speed : first.amount "speed_mhz" = second.amount "speed_mhz") :
      SameProduct .ram first second
  | drive {first second : Record}
      (interface : first.str? "interface" = second.str? "interface")
      (formFactor : token first "form_factor" = token second "form_factor")
      (capacity : token first "capacity" = token second "capacity")
      (subtype : driveSubtype first = driveSubtype second) :
      SameProduct .drive first second
  | cpu {first second : Record}
      (manufacturer : first.str? "manufacturer" = second.str? "manufacturer")
      (family : first.str? "family" = second.str? "family")
      (model : token first "model" = token second "model") :
      SameProduct .cpu first second
  | nic {first second : Record}
      (speed : first.str? "speed" = second.str? "speed")
      (ports : first.amount "port_count" = second.amount "port_count")
      (portType : token first "port_type" = token second "port_type") :
      SameProduct .nic first second

namespace ProductKey

open Numeric

variable {first second : Record}

/-! ### Components and what they show -/

theorem productKey_eq_iff {category other : String} :
    productKey category first = productKey other second ↔
      joined (components category first) = joined (components other second) := by
  unfold productKey
  exact String.ofList_inj

theorem number_eq_iff {field other : String} :
    number first field = number second other ↔ first.amount field = second.amount other := by
  -- a number that is not stated is shown as zero is
  have hzero : numberText (Binary.zero false) = ['0'] := by decide +kernel
  have hunits : (Binary.zero false : Binary binary64).signedUnits = 0 := rfl
  unfold number Record.amount
  cases first.number? field <;> cases second.number? other
  · simp
  · rw [← hzero, ← hunits]
    exact numberText_eq_iff
  · rw [← hzero, ← hunits]
    exact numberText_eq_iff
  · exact numberText_eq_iff

theorem token_congr {field other : String} (h : first.str? field = second.str? other) :
    token first field = token second other := by
  unfold token
  rw [h]

theorem token_of_str? {record : Record} {field text : String}
    (h : record.str? field = some text) :
    token record field = if text.toList = [] then unknown else folded text.toList := by
  unfold token
  rw [h]

/-- Whether the spellings of a set have components of their own. -/
def HaveOwnTokens (allowed : List String) : Prop :=
  ∀ text ∈ allowed, ∀ other ∈ allowed,
    (if text.toList = [] then unknown else folded text.toList) =
      (if other.toList = [] then unknown else folded other.toList) → text = other

instance (allowed : List String) : Decidable (HaveOwnTokens allowed) :=
  inferInstanceAs (Decidable (∀ text ∈ allowed, ∀ other ∈ allowed, _))

variable {category : Category} {field : String} {allowed : List String} {required : Bool}

variable {third fourth : List Char} {rest others : List (List Char)}

/-- The component of a fixed spelling comes off the front of a key. -/
theorem token_cons_inj (hfirst : Passed category first) (hsecond : Passed category second)
    (hmem : (⟨field, .oneOf allowed⟩, required) ∈ category.checks)
    (hallowed : ∀ text ∈ allowed, ':' ∉ text.toList)
    (h : joined (token first field :: third :: rest) =
      joined (token second field :: fourth :: others)) :
    token first field = token second field ∧
      joined (third :: rest) = joined (fourth :: others) := by
  have hcolon : ∀ record, Passed category record → ':' ∉ token record field := by
    intro record hpassed
    have hcheck : Validation.check ⟨field, .oneOf allowed⟩ required record = .ok record :=
      hpassed.2 _ hmem
    exact colon_not_mem_token_of_check rfl hcheck hallowed
  exact joined_cons_inj (hcolon first hfirst) (hcolon second hsecond) h

/-- The component of a number with its unit comes off the front of a key. -/
theorem number_cons_inj {suffix : List Char} (hsuffix : ':' ∉ suffix)
    (h : joined ((number first field ++ suffix) :: third :: rest) =
      joined ((number second field ++ suffix) :: fourth :: others)) :
    first.amount field = second.amount field ∧
      joined (third :: rest) = joined (fourth :: others) := by
  have hcolon : ∀ record, ':' ∉ number record field ++ suffix := by
    intro record
    rw [List.mem_append, not_or]
    exact ⟨colon_not_mem_number record field, hsuffix⟩
  obtain ⟨hnumber, hrest⟩ := joined_cons_inj (hcolon first) (hcolon second) h
  exact ⟨number_eq_iff.1 (List.append_cancel_right hnumber), hrest⟩

/-- A required spelling is known from its component. -/
theorem token_eq_iff_of_passed (hfirst : Passed category first) (hsecond : Passed category second)
    (hmem : (⟨field, .oneOf allowed⟩, true) ∈ category.checks) (hown : HaveOwnTokens allowed) :
    token first field = token second field ↔ first.str? field = second.str? field := by
  constructor
  · intro h
    have hcheck : ∀ record, Passed category record →
        Validation.check ⟨field, .oneOf allowed⟩ true record = .ok record :=
      fun record hpassed => hpassed.2 _ hmem
    obtain ⟨text, htext, hfirstText⟩ := Validation.spelled_of_required rfl (hcheck first hfirst)
    obtain ⟨other, hother, hsecondText⟩ :=
      Validation.spelled_of_required rfl (hcheck second hsecond)
    rw [token_of_str? hfirstText, token_of_str? hsecondText] at h
    rw [hfirstText, hsecondText, hown text htext other hother h]
  · exact token_congr

/-! ### Different categories -/

/-- The categories with keys of their own. -/
def keyed : List String := ["ram", "drive", "server", "cpu", "nic"]

/-- What stands before the first colon of a key. -/
def heading (category : String) : List Char :=
  if category ∈ keyed then category.toList else "other".toList

theorem components_of_not_mem {category : String} (h : category ∉ keyed) (record : Record) :
    components category record = ["other".toList, category.toList] := by
  unfold components
  split
  · exact absurd (by decide) h
  · exact absurd (by decide) h
  · exact absurd (by decide) h
  · exact absurd (by decide) h
  · exact absurd (by decide) h
  · rfl

theorem joined_components (category : String) (record : Record) :
    ∃ rest, joined (components category record) = heading category ++ ':' :: rest := by
  by_cases h : category ∈ keyed
  · unfold heading
    rw [if_pos h]
    simp only [keyed, List.mem_cons, List.not_mem_nil, or_false] at h
    rcases h with rfl | rfl | rfl | rfl | rfl
    · exact ⟨_, rfl⟩
    · exact ⟨_, rfl⟩
    · exact ⟨_, rfl⟩
    · exact ⟨_, rfl⟩
    · exact ⟨_, rfl⟩
  · unfold heading
    rw [if_neg h, components_of_not_mem h]
    exact ⟨_, rfl⟩

theorem colon_not_mem_heading (category : String) : ':' ∉ heading category := by
  unfold heading
  split
  · next h =>
    have hall : ∀ name ∈ keyed, ':' ∉ name.toList := by decide
    exact hall category h
  · decide

/-- **Keys of different categories differ**, whatever the records are. -/
theorem productKey_ne {category other : String} (h : category ≠ other) (first second : Record) :
    productKey category first ≠ productKey other second := by
  intro heq
  rw [productKey_eq_iff] at heq
  have hnames : ∀ name ∈ keyed, name.toList ≠ "other".toList := by decide
  obtain ⟨rest, hrest⟩ := joined_components category first
  obtain ⟨others, hothers⟩ := joined_components other second
  have hheading : heading category = heading other :=
    (append_colon_inj (colon_not_mem_heading category) (colon_not_mem_heading other)
      (hrest.symm.trans (heq.trans hothers))).1
  -- the heading tells the categories with keys of their own apart, and from all others
  unfold heading at hheading
  by_cases hcategory : category ∈ keyed
  · by_cases hother : other ∈ keyed
    · rw [if_pos hcategory, if_pos hother] at hheading
      exact h (String.toList_inj.1 hheading)
    · rw [if_pos hcategory, if_neg hother] at hheading
      exact hnames category hcategory hheading
  · by_cases hother : other ∈ keyed
    · rw [if_neg hcategory, if_pos hother] at hheading
      exact hnames other hother hheading.symm
    · -- neither has a key of its own, so the names are the last components
      rw [components_of_not_mem hcategory, components_of_not_mem hother] at heq
      have hname := (joined_cons_inj (by decide) (by decide) heq).2
      exact h (String.toList_inj.1 hname)

/-! ### Keys of one category -/

theorem components_ram (record : Record) : components "ram" record =
    ["ram".toList, token record "generation", ramSubtype record,
      number record "capacity_gb" ++ "gb".toList, number record "speed_mhz"] := rfl

theorem components_drive (record : Record) : components "drive" record =
    ["drive".toList, token record "interface", token record "form_factor",
      token record "capacity", driveSubtype record] := rfl

theorem components_cpu (record : Record) : components "cpu" record =
    ["cpu".toList, token record "manufacturer", token record "family", token record "model"] := rfl

theorem components_nic (record : Record) : components "nic" record =
    ["nic".toList, token record "speed", number record "port_count" ++ ['p'],
      token record "port_type"] := rfl

/-- **Memory modules** have the same key exactly if they are the same product. -/
theorem ram_key_iff (hfirst : Passed .ram first) (hsecond : Passed .ram second) :
    productKey "ram" first = productKey "ram" second ↔ SameProduct .ram first second := by
  have hgeneration : (⟨"generation", .oneOf ["DDR3", "DDR4", "DDR5"]⟩, true) ∈
      Category.ram.checks := by
    decide +kernel
  rw [productKey_eq_iff]
  constructor
  · intro h
    obtain ⟨-, h⟩ := joined_cons_inj (by decide) (by decide) h
    obtain ⟨htoken, h⟩ := token_cons_inj hfirst hsecond hgeneration (by decide) h
    obtain ⟨hsubtype, h⟩ := joined_cons_inj (colon_not_mem_ramSubtype first)
      (colon_not_mem_ramSubtype second) h
    obtain ⟨hcapacity, hspeed⟩ := number_cons_inj (by decide) h
    exact .ram ((token_eq_iff_of_passed hfirst hsecond hgeneration (by decide +kernel)).1 htoken)
      hsubtype hcapacity (number_eq_iff.1 hspeed)
  · intro h
    cases h with
    | ram hstr hsubtype hcapacity hspeed =>
        rw [components_ram, components_ram, token_congr hstr, hsubtype,
          number_eq_iff.2 hcapacity, number_eq_iff.2 hspeed]

/-- **Drives** have the same key exactly if they are the same product.  The capacity may have
colons; the subtype behind it has none. -/
theorem drive_key_iff (hfirst : Passed .drive first) (hsecond : Passed .drive second) :
    productKey "drive" first = productKey "drive" second ↔ SameProduct .drive first second := by
  have hinterface : (⟨"interface", .oneOf ["SAS", "SATA", "NVMe", "U.2"]⟩, true) ∈
      Category.drive.checks := by
    decide +kernel
  have hformFactor : (⟨"form_factor", .oneOf ["2.5", "3.5"]⟩, false) ∈
      Category.drive.checks := by
    decide +kernel
  rw [productKey_eq_iff]
  constructor
  · intro h
    obtain ⟨-, h⟩ := joined_cons_inj (by decide) (by decide) h
    obtain ⟨htoken, h⟩ := token_cons_inj hfirst hsecond hinterface (by decide) h
    obtain ⟨hform, h⟩ := token_cons_inj hfirst hsecond hformFactor (by decide) h
    -- the capacity is any text, so the subtype is taken off the end
    obtain ⟨hcapacity, hsubtype⟩ := joined_pair_inj (colon_not_mem_driveSubtype first)
      (colon_not_mem_driveSubtype second) h
    exact .drive ((token_eq_iff_of_passed hfirst hsecond hinterface (by decide +kernel)).1 htoken)
      hform hcapacity hsubtype
  · intro h
    cases h with
    | drive hstr hform hcapacity hsubtype =>
        rw [components_drive, components_drive, token_congr hstr, hform, hcapacity, hsubtype]

/-- **Processors** have the same key exactly if they are the same product. -/
theorem cpu_key_iff (hfirst : Passed .cpu first) (hsecond : Passed .cpu second) :
    productKey "cpu" first = productKey "cpu" second ↔ SameProduct .cpu first second := by
  have hmanufacturer : (⟨"manufacturer", .oneOf ["Intel", "AMD"]⟩, true) ∈
      Category.cpu.checks := by
    decide +kernel
  have hfamily : (⟨"family", .oneOf ["Xeon", "EPYC"]⟩, true) ∈ Category.cpu.checks := by
    decide +kernel
  rw [productKey_eq_iff]
  constructor
  · intro h
    obtain ⟨-, h⟩ := joined_cons_inj (by decide) (by decide) h
    obtain ⟨hmaker, h⟩ := token_cons_inj hfirst hsecond hmanufacturer (by decide) h
    -- the model is any text, but nothing stands behind it
    obtain ⟨hline, hmodel⟩ := token_cons_inj hfirst hsecond hfamily (by decide) h
    exact .cpu ((token_eq_iff_of_passed hfirst hsecond hmanufacturer (by decide +kernel)).1 hmaker)
      ((token_eq_iff_of_passed hfirst hsecond hfamily (by decide +kernel)).1 hline) hmodel
  · intro h
    cases h with
    | cpu hmaker hline hmodel =>
        rw [components_cpu, components_cpu, token_congr hmaker, token_congr hline, hmodel]

/-- **Network cards** have the same key exactly if they are the same product. -/
theorem nic_key_iff (hfirst : Passed .nic first) (hsecond : Passed .nic second) :
    productKey "nic" first = productKey "nic" second ↔ SameProduct .nic first second := by
  have hspeed : (⟨"speed", .oneOf ["1GbE", "10GbE", "25GbE", "40GbE", "100GbE"]⟩, true) ∈
      Category.nic.checks := by
    decide +kernel
  rw [productKey_eq_iff]
  constructor
  · intro h
    obtain ⟨-, h⟩ := joined_cons_inj (by decide) (by decide) h
    obtain ⟨htoken, h⟩ := token_cons_inj hfirst hsecond hspeed (by decide) h
    obtain ⟨hports, hportType⟩ := number_cons_inj (by decide) h
    exact .nic ((token_eq_iff_of_passed hfirst hsecond hspeed (by decide +kernel)).1 htoken)
      hports hportType
  · intro h
    cases h with
    | nic hstr hports hportType =>
        rw [components_nic, components_nic, token_congr hstr, number_eq_iff.2 hports,
          hportType]

/-! ### Keys of all categories -/

/-- **Keys separate products.**  Keys under different category names differ, and two valid records
of a category whose keys can be taken apart have the same key exactly if they agree on everything
that identifies a product. -/
theorem productKey_separates :
    (∀ (category other : String) (first second : Record), category ≠ other →
      productKey category first ≠ productKey other second) ∧
    ∀ category ∈ [Category.ram, .drive, .cpu, .nic], ∀ given other first second : Record,
      category.validate given = .ok first → category.validate other = .ok second →
        (productKey category.name first = productKey category.name second ↔
          SameProduct category first second) := by
  constructor
  · intro category other first second h
    exact productKey_ne h first second
  · intro category hcategory given other first second hgiven hother
    have hfirst := Category.passed_of_validate hgiven
    have hsecond := Category.passed_of_validate hother
    simp only [List.mem_cons, List.not_mem_nil, or_false] at hcategory
    rcases hcategory with rfl | rfl | rfl | rfl
    · exact ram_key_iff hfirst hsecond
    · exact drive_key_iff hfirst hsecond
    · exact cpu_key_iff hfirst hsecond
    · exact nic_key_iff hfirst hsecond

/-- A drive of which only the capacity and the interface are known. -/
def plainDrive (capacity interface : String) : Record :=
  ((Record.certain.insertText "capacity" capacity).insertText "interface" interface).insertText
    Validation.conditionField "used"

theorem productKey_separates_drives :
    productKey "ram" Record.empty ≠ productKey "cpu" Record.empty ∧
      ∃ first second, Category.drive.validate (plainDrive "1:2 TB" "sas") = .ok first ∧
        Category.drive.validate (plainDrive "1:2 TB" "SAS") = .ok second ∧
        (productKey "drive" first = productKey "drive" second ↔
          SameProduct .drive first second) := by
  obtain ⟨first, hfirst⟩ := exists_ok_of_isSome
    (Category.drive.validate (plainDrive "1:2 TB" "sas")) (by decide +kernel)
  obtain ⟨second, hsecond⟩ := exists_ok_of_isSome
    (Category.drive.validate (plainDrive "1:2 TB" "SAS")) (by decide +kernel)
  refine ⟨productKey_separates.1 "ram" "cpu" Record.empty Record.empty (by decide), first, second,
    hfirst, hsecond, ?_⟩
  exact productKey_separates.2 .drive (by decide) _ _ first second hfirst hsecond

end ProductKey

end ListingAttributes
