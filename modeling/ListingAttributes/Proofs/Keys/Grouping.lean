import ListingAttributes.MemorySpeed
import ListingAttributes.Proofs.Keys.Components
import ListingAttributes.Proofs.Records.Likeness

/-!
# Grouping does not depend on spelling

Records that are alike have the same key under every category name
(`productKey_alike`), and the speed of a title is filled in for both or for
neither (`recovered?_alike`).  Together with the validation of records that are
alike for a category, this says that a listing is grouped by what a provider
says and not by how it is spelled (`grouping_alike`).
-/

namespace ListingAttributes

open Json

variable {first second : Record}

/-! ### Reading alike records -/

namespace Record.Alike

theorem get? (h : first.Alike second) (field : String) :
    Option.Rel Json.Alike (first.get? field) (second.get? field) :=
  rel_get? (fun _ _ => Json.Alike.isNull_eq) (h field)

theorem str?_eq (h : first.Alike second) (field : String) :
    first.str? field = second.str? field := by
  have hfield := h.get? field
  unfold Record.str?
  generalize first.get? field = value at *
  generalize second.get? field = other at *
  cases hfield with
  | none => rfl
  | some hfield => cases hfield <;> rfl

theorem bool?_eq (h : first.Alike second) (field : String) :
    first.bool? field = second.bool? field := by
  have hfield := h.get? field
  unfold Record.bool?
  generalize first.get? field = value at *
  generalize second.get? field = other at *
  cases hfield with
  | none => rfl
  | some hfield => cases hfield <;> rfl

theorem number? (h : first.Alike second) (field : String) :
    Option.Rel (fun x y => x.signedUnits = y.signedUnits) (first.number? field)
      (second.number? field) := by
  have hfield := h.get? field
  unfold Record.number?
  generalize first.get? field = value at *
  generalize second.get? field = other at *
  cases hfield with
  | none => exact .none
  | some hfield =>
      cases hfield with
      | number hvalue => exact .some (Numeric.Binary.sameValue_iff.1 hvalue)
      | _ => exact .none

end Record.Alike

/-! ### Keys -/

namespace ProductKey

theorem token_alike (h : first.Alike second) (field : String) :
    token first field = token second field := by
  unfold token
  rw [h.str?_eq]

theorem number_alike (h : first.Alike second) (field : String) :
    number first field = number second field := by
  have hfield := h.number? field
  unfold number
  generalize first.number? field = value at *
  generalize second.number? field = other at *
  cases hfield with
  | none => rfl
  | some hvalue => exact numberText_eq_iff.2 hvalue

theorem ramSubtype_alike (h : first.Alike second) : ramSubtype first = ramSubtype second := by
  unfold ramSubtype
  rw [h.bool?_eq, h.bool?_eq]

theorem driveSubtype_alike (h : first.Alike second) :
    driveSubtype first = driveSubtype second := by
  have hrate : (first.number? "rpm").map Numeric.Binary.truncate =
      (second.number? "rpm").map Numeric.Binary.truncate := by
    have hfield := h.number? "rpm"
    generalize first.number? "rpm" = value at *
    generalize second.number? "rpm" = other at *
    cases hfield with
    | none => rfl
    | some hvalue => rw [Option.map_some, Option.map_some, Numeric.Binary.truncate_congr hvalue]
  unfold driveSubtype
  rw [h.str?_eq, hrate]

/-- **Alike records have the same key** under every category name. -/
theorem productKey_alike (h : first.Alike second) (category : String) :
    productKey category first = productKey category second := by
  unfold productKey components
  simp only [token_alike h, number_alike h, ramSubtype_alike h, driveSubtype_alike h]

end ProductKey

/-! ### Speeds -/

namespace MemorySpeed

theorem isStated_alike (h : first.Alike second) : isStated first = isStated second := by
  have hfield := h.number? field
  unfold isStated
  generalize first.number? field = value at *
  generalize second.number? field = other at *
  cases hfield with
  | none => rfl
  | some hvalue =>
      dsimp only
      rw [Numeric.Binary.isZero_congr hvalue]

theorem alike_insertInteger (h : first.Alike second) (i : Json.Integer) :
    (first.insertInteger field i).Alike (second.insertInteger field i) := by
  intro other
  unfold Record.insertInteger
  rw [Record.lookup_insert, Record.lookup_insert]
  split
  · exact .some (.number (Numeric.Binary.sameValue_iff.2 rfl))
  · exact h other

/-- **The speed of a title is filled in for both of two alike records or for neither.** -/
theorem recovered?_alike (h : first.Alike second) (title : List Char) :
    Option.Rel Record.Alike (recovered? title first) (recovered? title second) := by
  unfold recovered?
  rw [isStated_alike h]
  split
  · exact .none
  · cases ofTitle? title with
    | none => exact .none
    | some rate => exact .some (alike_insertInteger h (integerOfRate rate))

theorem isSome_recovered?_alike (h : first.Alike second) (title : List Char) :
    (recovered? title first).isSome = (recovered? title second).isSome := by
  have hrel := recovered?_alike h title
  generalize recovered? title first = value at *
  generalize recovered? title second = other at *
  cases hrel with
  | none => rfl
  | some _ => rfl

theorem recover_alike (h : first.Alike second) (title : List Char) :
    (recover title first).Alike (recover title second) := by
  have hrel := recovered?_alike h title
  unfold recover
  generalize recovered? title first = value at *
  generalize recovered? title second = other at *
  cases hrel with
  | none => exact h
  | some hrecords => exact hrecords

end MemorySpeed

/-! ### Grouping -/

/-- **Grouping does not depend on spelling.**  Two records that are alike for a category fail
validation in the same way or both succeed; then the results are alike for the category again and
have the same key, and the speed of a title is filled in for both or for neither, after which the
keys are the same still. -/
theorem grouping_alike {category : Category} (h : AlikeFor category first second) :
    Agree (fun first second =>
        AlikeFor category first second ∧
        productKey category.name first = productKey category.name second ∧
        ∀ title, (MemorySpeed.recovered? title first).isSome =
            (MemorySpeed.recovered? title second).isSome ∧
          productKey category.name (MemorySpeed.recover title first) =
            productKey category.name (MemorySpeed.recover title second))
      (category.validate first) (category.validate second) := by
  refine (validate_alike h).imp fun first second hfirst hsecond hsame => ?_
  -- what is alike for a category only is alike altogether once it is valid
  have halike := alike_of_passed (Category.passed_of_validate hfirst)
    (Category.passed_of_validate hsecond) hsame
  refine ⟨hsame, ProductKey.productKey_alike halike _, fun title => ?_⟩
  exact ⟨MemorySpeed.isSome_recovered?_alike halike title,
    ProductKey.productKey_alike (MemorySpeed.recover_alike halike title) _⟩

/-- A memory module in the words of a provider. -/
def moduleOf (capacity : Number) (generation condition : String) : Record :=
  ((Record.certain.insert "capacity_gb" ⟨.number capacity, trivial⟩).insertText
    "generation" generation).insertText Validation.conditionField condition

theorem grouping_alike_modules :
    AlikeFor .ram (moduleOf (.integer (.ofNat 32)) "DDR4" "used")
        (moduleOf (.double (doubleOfNat 32)) " ddr4" "Pre-Owned") ∧
      ∃ first second,
        Category.ram.validate (moduleOf (.integer (.ofNat 32)) "DDR4" "used") = .ok first ∧
        Category.ram.validate (moduleOf (.double (doubleOfNat 32)) " ddr4" "Pre-Owned") =
          .ok second ∧
        productKey "ram" first = productKey "ram" second := by
  have hspelled : Category.ram.IsSpelled "generation" :=
    ⟨(⟨"generation", .oneOf ["DDR3", "DDR4", "DDR5"]⟩, true), by decide +kernel, rfl, _, rfl⟩
  have hcertain : AlikeFor .ram Record.certain Record.certain :=
    AlikeFor.insert (fun _ => .none) (.value (.number (by decide +kernel)))
  have halike : AlikeFor .ram (moduleOf (.integer (.ofNat 32)) "DDR4" "used")
      (moduleOf (.double (doubleOfNat 32)) " ddr4" "Pre-Owned") := by
    refine ((hcertain.insert ?_).insert ?_).insert ?_
    · exact .value (.number (by decide +kernel))
    · exact .spelling hspelled (by decide) (by decide) (by decide)
    · exact .condition rfl (by decide +kernel)
  obtain ⟨first, hfirst⟩ := exists_ok_of_isSome
    (Category.ram.validate (moduleOf (.integer (.ofNat 32)) "DDR4" "used")) (by decide +kernel)
  obtain ⟨second, hsecond⟩ := exists_ok_of_isSome
    (Category.ram.validate (moduleOf (.double (doubleOfNat 32)) " ddr4" "Pre-Owned"))
    (by decide +kernel)
  have hagree := grouping_alike halike
  rw [hfirst, hsecond] at hagree
  cases hagree with
  | ok h => exact ⟨halike, first, second, hfirst, hsecond, h.2.1⟩

end ListingAttributes
