import Mathlib.Data.List.DropRight
import ListingAttributes.Settings.Backend

/-!
# Where requests go

The address in the settings is checked by how it starts, and the adapter drops
the slashes that it ends with before it adds the path of its provider.

* `dropTrailing_eq_iff`: what is left of a text is its one stem that does not
  end with the character;
* `isWebAddress_iff`: an address passes the check if it is the name of a scheme,
  a colon, two slashes and any rest;
* `url_of_build`: requests go to the stem of the address with the path behind
  it.  The check still holds of that if the rest has a character other than a
  slash; if it has none, the slashes of the scheme are dropped with it.
-/

namespace ListingAttributes

open Generation

/-! ### Characters at the end of a text -/

namespace Generation.Adapter

theorem toList_dropTrailing (c : Char) (text : String) :
    (dropTrailing c text).toList = text.toList.rdropWhile (· == c) :=
  String.toList_ofList

/-- What is left does not end with the character. -/
theorem getLast?_dropTrailing (c : Char) (text : String) :
    (dropTrailing c text).toList.getLast? ≠ some c := by
  rw [toList_dropTrailing]
  intro hlast
  have hne : text.toList.rdropWhile (· == c) ≠ [] := by
    intro hnil
    rw [hnil] at hlast
    cases hlast
  rw [List.getLast?_eq_some_getLast hne, Option.some.injEq] at hlast
  apply List.rdropWhile_last_not (· == c) text.toList hne
  rw [hlast, beq_self_eq_true]

theorem dropTrailing_eq_self {c : Char} {text : String} (h : text.toList.getLast? ≠ some c) :
    dropTrailing c text = text := by
  rw [← String.toList_inj, toList_dropTrailing, List.rdropWhile_eq_self_iff]
  intro hne heq
  apply h
  rw [List.getLast?_eq_some_getLast hne, beq_iff_eq.1 heq]

/-- However often the character stands at the end, it is dropped. -/
theorem dropTrailing_append_replicate (c : Char) (text : String) (count : Nat) :
    dropTrailing c (text ++ String.ofList (List.replicate count c)) = dropTrailing c text := by
  rw [← String.toList_inj, toList_dropTrailing, toList_dropTrailing, String.toList_append,
    String.toList_ofList]
  induction count with
  | zero => rw [List.replicate_zero, List.append_nil]
  | succ count ih =>
      rw [List.replicate_succ', ← List.append_assoc,
        List.rdropWhile_concat_pos (· == c) _ c (beq_self_eq_true c), ih]

/-- A text is what is left of it, with the character behind that. -/
theorem exists_eq_dropTrailing (c : Char) (text : String) :
    ∃ count, text = dropTrailing c text ++ String.ofList (List.replicate count c) := by
  let dropped := text.toList.rtakeWhile (· == c)
  have hdropped : dropped = List.replicate dropped.length c := by
    apply List.eq_replicate_length.2
    intro d hd
    have hequal : (d == c) = true := List.mem_rtakeWhile_imp (p := (· == c)) hd
    exact beq_iff_eq.1 hequal
  refine ⟨dropped.length, ?_⟩
  rw [← String.toList_inj, String.toList_append, toList_dropTrailing, String.toList_ofList,
    ← hdropped, List.rdropWhile_append_rtakeWhile]

/-- **What is left of a text** is its one stem that does not end with the character. -/
theorem dropTrailing_eq_iff {c : Char} {text stem : String} : dropTrailing c text = stem ↔
    (∃ count, text = stem ++ String.ofList (List.replicate count c)) ∧
      stem.toList.getLast? ≠ some c := by
  constructor
  · rintro rfl
    exact ⟨exists_eq_dropTrailing c text, getLast?_dropTrailing c text⟩
  · rintro ⟨⟨count, rfl⟩, hstem⟩
    rw [dropTrailing_append_replicate, dropTrailing_eq_self hstem]

/-- A number of slashes. -/
def slashes (count : Nat) : String := String.ofList (List.replicate count '/')

end Generation.Adapter

/-! ### Addresses that pass the check -/

namespace Settings.BackendSettings

open Adapter

/-- The names of the schemes of the web. -/
def webSchemes : List String := ["http", "https"]

/-- **An address passes the check** if it is the name of a scheme, a colon, two slashes and any
rest. -/
theorem isWebAddress_iff {url : String} : isWebAddress url = true ↔
    ∃ scheme ∈ webSchemes, ∃ rest, url = scheme ++ "://" ++ rest := by
  have hstarts : ∀ start : String, start.toList.isPrefixOf url.toList = true ↔
      ∃ rest, url = start ++ rest := by
    intro start
    rw [List.isPrefixOf_iff_prefix]
    constructor
    · rintro ⟨rest, hrest⟩
      refine ⟨String.ofList rest, ?_⟩
      rw [← String.toList_inj, String.toList_append, String.toList_ofList, hrest]
    · rintro ⟨rest, rfl⟩
      rw [String.toList_append]
      exact List.prefix_append _ _
  rw [isWebAddress, Bool.or_eq_true, hstarts, hstarts]
  simp [webSchemes]

/-- The slashes of a scheme are dropped with those that follow if nothing else does. -/
theorem dropTrailing_scheme (scheme : String) {rest : String} (h : ∀ c ∈ rest.toList, c = '/') :
    dropTrailing '/' (scheme ++ "://" ++ rest) = scheme ++ ":" := by
  rw [dropTrailing_eq_iff]
  constructor
  · refine ⟨rest.toList.length + 2, ?_⟩
    rw [← String.toList_inj]
    simp only [String.toList_append, String.toList_ofList, List.append_assoc]
    rw [List.eq_replicate_length.2 h]
    simp [List.replicate_succ]
  · simp

/-- A scheme is kept if anything but slashes follows it. -/
theorem dropTrailing_address (scheme : String) {rest : String}
    (h : ∃ c ∈ rest.toList, c ≠ '/') :
    dropTrailing '/' (scheme ++ "://" ++ rest) = scheme ++ "://" ++ dropTrailing '/' rest := by
  obtain ⟨count, hcount⟩ := exists_eq_dropTrailing '/' rest
  rw [dropTrailing_eq_iff]
  constructor
  · refine ⟨count, ?_⟩
    rw [@String.append_assoc (scheme ++ "://"), ← hcount]
  · have hne : (dropTrailing '/' rest).toList ≠ [] := by
      rw [toList_dropTrailing, Ne, List.rdropWhile_eq_nil_iff]
      simpa using h
    rw [String.toList_append, List.getLast?_append_of_ne_nil _ hne]
    exact getLast?_dropTrailing '/' rest

/-! ### Adapters of valid settings -/

variable {settings : BackendSettings} {environment : String → Option String} {adapter : Adapter}

theorem eq_adapter_of_build (h : settings.build environment = .ok adapter) :
    settings.problem? = none ∧ adapter = settings.adapter environment := by
  unfold build at h
  split at h
  · cases h
  · next hproblem => exact ⟨hproblem, (Except.ok.inj h).symm⟩

theorem isWebAddress_of_problem? {url : String} (hurl : settings.baseUrl = some url)
    (h : settings.problem? = none) : isWebAddress url = true := by
  unfold problem? at h
  rw [hurl] at h
  split at h
  · cases h
  · split at h
    · cases h
    · by_contra hother
      dsimp only at h
      rw [if_neg hother] at h
      cases h

theorem url_adapter {url : String} (hurl : settings.baseUrl = some url) :
    (settings.adapter environment).url = dropTrailing '/' url ++ settings.provider.path := by
  rw [← Option.getD_some (a := url) (b := settings.provider.defaultUrl), ← hurl]
  rfl

/-- Settings whose addresses differ in their slashes at the end stand for the same adapter. -/
theorem adapter_slashes (settings : BackendSettings) (environment : String → Option String)
    (stem : String) (count : Nat) :
    { settings with baseUrl := some (stem ++ slashes count) }.adapter environment =
      { settings with baseUrl := some stem }.adapter environment := by
  have hstem := dropTrailing_append_replicate '/' stem count
  unfold BackendSettings.adapter atUrl
  dsimp only [Option.getD_some]
  rw [slashes, hstem]
  rfl

/-- The path of a provider does not start with two slashes. -/
theorem not_slashes_prefix_path (provider : Provider) :
    ¬ "//".toList <+: provider.path.toList := by
  cases provider <;> decide

/-- Behind what is left of an address, the path of a provider makes an address of the same scheme
if something other than slashes follows that. -/
theorem prefix_dropTrailing_iff (scheme rest : String) (provider : Provider) :
    (scheme ++ "://").toList <+:
        (dropTrailing '/' (scheme ++ "://" ++ rest) ++ provider.path).toList ↔
      ∃ c ∈ rest.toList, c ≠ '/' := by
  constructor
  · intro hprefix
    by_contra hslashes
    have hall : ∀ c ∈ rest.toList, c = '/' := by simpa using hslashes
    have hcolon : "://" = ":" ++ "//" := rfl
    rw [dropTrailing_scheme scheme hall, hcolon] at hprefix
    simp only [String.toList_append, List.append_assoc] at hprefix
    rw [List.prefix_append_right_inj, List.prefix_append_right_inj] at hprefix
    exact not_slashes_prefix_path provider hprefix
  · intro hother
    rw [dropTrailing_address scheme hother, String.append_assoc]
    simp only [String.toList_append]
    exact List.prefix_append _ _

/-- **Where requests go.**  Requests of the adapter for settings without a problem go to the stem
of the address, which does not end with a slash, with the path of the provider behind it; how many
slashes the address ends with makes no difference.  They still go to an address with the scheme of
the settings if anything but slashes follows that; otherwise a single slash follows the colon. -/
theorem url_of_build {url : String} (hurl : settings.baseUrl = some url)
    (hbuild : settings.build environment = .ok adapter) :
    (∃ stem count, url = stem ++ slashes count ∧ stem.toList.getLast? ≠ some '/' ∧
      ∀ request, (adapter.httpRequest request).url = stem ++ settings.provider.path) ∧
    (∀ stem count other again, url = stem ++ slashes count →
      { settings with baseUrl := some (stem ++ slashes other) }.build environment = .ok again →
        again = adapter) ∧
    ∃ scheme ∈ webSchemes, ∃ rest, url = scheme ++ "://" ++ rest ∧
      (∀ request, (scheme ++ "://").toList <+: (adapter.httpRequest request).url.toList ↔
        ∃ c ∈ rest.toList, c ≠ '/') ∧
      ((∀ c ∈ rest.toList, c = '/') → ∀ request,
        (adapter.httpRequest request).url = scheme ++ ":" ++ settings.provider.path) := by
  obtain ⟨hvalid, rfl⟩ := eq_adapter_of_build hbuild
  have hposted : ∀ request, ((settings.adapter environment).httpRequest request).url =
      dropTrailing '/' url ++ settings.provider.path := fun _ => url_adapter hurl
  refine ⟨?_, ?_, ?_⟩
  · obtain ⟨count, hcount⟩ := exists_eq_dropTrailing '/' url
    exact ⟨dropTrailing '/' url, count, hcount, getLast?_dropTrailing '/' url, hposted⟩
  · rintro stem count other again rfl hagain
    obtain ⟨-, rfl⟩ := eq_adapter_of_build hagain
    have hsettings : settings = { settings with baseUrl := some (stem ++ slashes count) } := by
      rw [← hurl]
    rw [adapter_slashes, hsettings, adapter_slashes]
  · obtain ⟨scheme, hscheme, rest, rfl⟩ := isWebAddress_iff.1 (isWebAddress_of_problem? hurl hvalid)
    refine ⟨scheme, hscheme, rest, rfl, ?_, ?_⟩
    · intro request
      rw [hposted, prefix_dropTrailing_iff]
    · intro hslashes request
      rw [hposted, dropTrailing_scheme scheme hslashes]

/-- Settings for a chat-completions service at an address, with a key. -/
def chatAt (url : String) : BackendSettings :=
  { default with provider := .openAi, baseUrl := some url, key := some "k" }

/-- An environment without variables. -/
def bareEnvironment : String → Option String := fun _ => none

theorem url_of_build_slashes :
    (chatAt "https://proxy.example/v1//").baseUrl = some "https://proxy.example/v1//" ∧
      (chatAt "https://proxy.example/v1//").build bareEnvironment =
        .ok ((chatAt "https://proxy.example/v1//").adapter bareEnvironment) ∧
      ∀ request,
        (((chatAt "https://proxy.example/v1//").adapter bareEnvironment).httpRequest request).url =
          "https://proxy.example/v1/chat/completions" := by
  have hbuild : (chatAt "https://proxy.example/v1//").build bareEnvironment =
      .ok ((chatAt "https://proxy.example/v1//").adapter bareEnvironment) := by decide +kernel
  obtain ⟨⟨stem, count, hsplit, hlast, hposted⟩, -, -⟩ := url_of_build rfl hbuild
  have hstem : stem = "https://proxy.example/v1" := by
    rw [← dropTrailing_eq_iff.2 ⟨⟨count, hsplit⟩, hlast⟩]
    decide +kernel
  refine ⟨rfl, hbuild, ?_⟩
  intro request
  rw [hposted, hstem]
  rfl

/-- Where the address is nothing but a scheme, the key is sent to an address without one. -/
theorem scheme_slashes_dropped :
    (chatAt "https://").problem? = none ∧
      (chatAt "https://").build bareEnvironment =
        .ok ((chatAt "https://").adapter bareEnvironment) ∧
      ∀ request, let sent := ((chatAt "https://").adapter bareEnvironment).httpRequest request
        sent.url = "https:/chat/completions" ∧ isWebAddress sent.url = false ∧
          sent.headers = [("authorization", "Bearer k")] := by
  refine ⟨by decide +kernel, by decide +kernel, ?_⟩
  intro request sent
  have hurl : sent.url = "https:/chat/completions" := by
    have hadapter : ((chatAt "https://").adapter bareEnvironment).url = "https:/chat/completions" :=
      by decide +kernel
    exact hadapter
  refine ⟨hurl, ?_, ?_⟩
  · rw [hurl]
    decide +kernel
  · have hheaders : ((chatAt "https://").adapter bareEnvironment).headers =
        [("authorization", "Bearer k")] := by decide +kernel
    exact hheaders

end Settings.BackendSettings

end ListingAttributes
