import ListingAttributes.Proofs.Toml.Statements

/-!
# Written sections are read as tables

Keys write to the table at the path of the last header.  What matters about that
path is only that an edit at it is an edit of that table (`Leads`), so a list of
settings is added to a section as it is to the table that holds all others
(`foldlM_settings`).  Every key is new where it is written, hence nothing that
was written before is lost or moved.

The lines of settings are read as these settings (`parse?_lines`), and two
sections as two tables (`parse?_sections`).
-/

namespace ListingAttributes.Toml

variable {key name : String} {front inner entries : Entries}

/-! ### Entries of a table -/

theorem setEntry_of_absent (node : Node) (h : key ∉ entries.map Prod.fst) :
    setEntry key node entries = entries ++ [(key, node)] := by
  induction entries with
  | nil => rfl
  | cons entry entries ih =>
      obtain ⟨k, n⟩ := entry
      rw [List.map_cons, List.mem_cons, not_or] at h
      rw [setEntry, if_neg (Ne.symm h.1), ih h.2, List.cons_append]

/-- The entry of a key is replaced where it is. -/
theorem setEntry_last (old node : Node) (h : key ∉ front.map Prod.fst) :
    setEntry key node (front ++ [(key, old)]) = front ++ [(key, node)] := by
  induction front with
  | nil => rw [List.nil_append, setEntry, if_pos rfl, List.nil_append]
  | cons entry front ih =>
      obtain ⟨k, n⟩ := entry
      rw [List.map_cons, List.mem_cons, not_or] at h
      rw [List.cons_append, setEntry, if_neg (Ne.symm h.1), ih h.2, List.cons_append]

/-- A new key is written behind the others. -/
theorem addValue_of_absent (value : Toml) (h : key ∉ entries.map Prod.fst) :
    addValue [key] value .header entries = some (entries ++ [(key, .value value)]) := by
  have hlookup : Json.lookup key entries = none := Json.lookup_eq_none_iff.2 h
  simp [addValue, splitLast?, editAt, hlookup, setEntry_of_absent _ h]

/-- A new table is opened behind the others. -/
theorem openTable_of_absent (h : key ∉ entries.map Prod.fst) :
    openTable [key] entries = some (entries ++ [(key, .table .header [])]) := by
  have hlookup : Json.lookup key entries = none := Json.lookup_eq_none_iff.2 h
  simp [openTable, splitLast?, editAt, hlookup, setEntry_of_absent _ h]

/-! ### The table that keys write to -/

/-- A path leads to a table of the tree: an edit at the path is an edit of that table. -/
def Leads (path : List String) (place : Entries → Entries) : Prop :=
  ∀ edit inner, editAt .implied edit path .header (place inner) = (edit .header inner).map place

theorem leads_root : Leads [] id := by
  intro edit inner
  rw [editAt, Option.map_id]
  rfl

/-- The name of a section leads to its table. -/
theorem leads_section (h : name ∉ front.map Prod.fst) :
    Leads [name] fun inner => front ++ [(name, .table .header inner)] := by
  intro edit inner
  have hlookup : Json.lookup name (front ++ [(name, Node.table .header inner)]) =
      some (.table .header inner) := by
    rw [Json.lookup_append, Json.lookup_eq_none_iff.2 h, Option.none_or, Json.lookup_cons_self]
  rw [editAt, hlookup]
  simp only [reduceCtorEq, false_and, if_false, editAt]
  cases edit .header inner with
  | none => rfl
  | some edited => exact congrArg some (setEntry_last _ _ h)

/-- The entry of a setting in a table under construction. -/
def settingNode (entry : String × Setting) : String × Node := (entry.1, .value entry.2.toToml)

/-- The entry of a setting in a table. -/
def settingEntry (entry : String × Setting) : String × Toml := (entry.1, entry.2.toToml)

/-- Settings under new keys are added to the table that the path leads to. -/
theorem foldlM_settings_append {path : List String} {place : Entries → Entries}
    (hleads : Leads path place) {settings : List (String × Setting)}
    (hkeys : (entries.map Prod.fst ++ settings.map Prod.fst).Nodup) :
    (settings.map settingStatement).foldlM Assembly.add ⟨place entries, path⟩ =
      some ⟨place (entries ++ settings.map settingNode), path⟩ := by
  induction settings generalizing entries with
  | nil =>
      rw [List.map_nil, List.map_nil, List.append_nil]
      rfl
  | cons entry settings ih =>
      obtain ⟨key, setting⟩ := entry
      have habsent : key ∉ entries.map Prod.fst := fun hmem =>
        List.disjoint_of_nodup_append hkeys hmem List.mem_cons_self
      have hadd : Assembly.add ⟨place entries, path⟩ (settingStatement (key, setting)) =
          some ⟨place (entries ++ [settingNode (key, setting)]), path⟩ := by
        rw [settingStatement, Assembly.add, hleads, addValue_of_absent _ habsent]
        rfl
      have hmore : ((entries ++ [settingNode (key, setting)]).map Prod.fst ++
          settings.map Prod.fst).Nodup := by
        simpa [settingNode] using hkeys
      rw [List.map_cons, List.foldlM_cons, hadd, Option.bind_eq_bind, Option.bind_some, ih hmore,
        List.append_assoc, List.singleton_append, List.map_cons]

/-- Settings fill the table that the path leads to. -/
theorem foldlM_settings {path : List String} {place : Entries → Entries}
    (hleads : Leads path place) {settings : List (String × Setting)}
    (hkeys : (settings.map Prod.fst).Nodup) :
    (settings.map settingStatement).foldlM Assembly.add ⟨place [], path⟩ =
      some ⟨place (settings.map settingNode), path⟩ :=
  foldlM_settings_append hleads hkeys

theorem tableOf_settingNode (settings : List (String × Setting)) :
    tableOf (settings.map settingNode) = settings.map settingEntry := by
  induction settings with
  | nil => rw [List.map_nil, tableOf, List.map_nil]
  | cons entry settings ih =>
      obtain ⟨key, setting⟩ := entry
      rw [List.map_cons, settingNode, tableOf, ih, Node.toToml, List.map_cons, settingEntry]

/-! ### Texts -/

/-- What the lines of settings need to be read back: keys without quotes, each of them once. -/
structure Writable (settings : List (String × Setting)) : Prop where
  bare : ∀ entry ∈ settings, IsBare entry.1
  nodup : (settings.map Prod.fst).Nodup

variable {settings first second : List (String × Setting)} {lines firstLines secondLines : List Char}

/-- A text of lines has no mark of its byte order. -/
theorem head?_lines (hsettings : Writable settings) (hlines : linesText? settings = some lines) :
    lines.head? ≠ some '\uFEFF' := by
  cases settings with
  | nil =>
      obtain rfl := Option.some.inj hlines
      exact nofun
  | cons entry settings =>
      obtain ⟨key, setting⟩ := entry
      obtain ⟨value, more, -, -, rfl⟩ := linesText?_cons hlines
      obtain ⟨c, tail, hcons, hc⟩ :=
        lineText_eq_cons (hsettings.bare (key, setting) List.mem_cons_self) value
      have hmark : c ≠ '\uFEFF' := ne_of_class hc (by decide)
      rw [hcons]
      exact fun heq => hmark (Option.some.inj heq)

/-- **The lines of settings are read as these settings**, in order. -/
theorem parse?_lines (hsettings : Writable settings)
    (hlines : linesText? settings = some lines) :
    parse? lines = some (settings.map settingEntry) := by
  have hreads := readsAs_nil.lines hsettings.bare hlines
  rw [List.append_nil, List.append_nil] at hreads
  have hfold : (settings.map settingStatement).foldlM Assembly.add Assembly.empty =
      some ⟨settings.map settingNode, []⟩ :=
    foldlM_settings leads_root hsettings.nodup
  rw [parse?, hreads.statements? (head?_lines hsettings hlines), Option.bind_some,
    Assembly.table?, hfold, Option.bind_eq_bind, Option.bind_some, tableOf_settingNode]
  rfl

/-- The statements of a section put its table behind the sections before it. -/
theorem foldlM_section {path : List String} (hname : name ∉ front.map Prod.fst)
    (hkeys : (settings.map Prod.fst).Nodup) :
    (Statement.header [name] :: settings.map settingStatement).foldlM Assembly.add ⟨front, path⟩ =
      some ⟨front ++ [(name, .table .header (settings.map settingNode))], [name]⟩ := by
  have hopen : Assembly.add ⟨front, path⟩ (.header [name]) =
      some ⟨front ++ [(name, .table .header [])], [name]⟩ := by
    rw [Assembly.add, openTable_of_absent hname]
    rfl
  rw [List.foldlM_cons, hopen, Option.bind_eq_bind, Option.bind_some]
  exact foldlM_settings (leads_section hname) hkeys

/-- **Two sections are read as two tables**, each with its settings. -/
theorem parse?_sections {other : String} (hname : IsBare name) (hother : IsBare other)
    (hne : other ≠ name) (hfirst : Writable first) (hsecond : Writable second)
    (hfirstLines : linesText? first = some firstLines)
    (hsecondLines : linesText? second = some secondLines) :
    parse? (headerText name ++ firstLines ++ '\n' :: headerText other ++ secondLines) =
      some [(name, .table (first.map settingEntry)),
        (other, .table (second.map settingEntry))] := by
  have hback := ((readsAs_nil.lines hsecond.bare hsecondLines).header hother).blank
  have hreads := (hback.lines hfirst.bare hfirstLines).header hname
  have htext : headerText name ++ firstLines ++ '\n' :: headerText other ++ secondLines =
      headerText name ++ (firstLines ++ '\n' :: (headerText other ++ (secondLines ++ []))) := by
    simp
  have hfold : ((Statement.header [name] :: first.map settingStatement) ++
      (.header [other] :: second.map settingStatement)).foldlM Assembly.add Assembly.empty =
        some ⟨[(name, .table .header (first.map settingNode)),
          (other, .table .header (second.map settingNode))], [other]⟩ := by
    rw [List.foldlM_append, Assembly.empty, foldlM_section List.not_mem_nil hfirst.nodup,
      Option.bind_eq_bind, Option.bind_some,
      foldlM_section (by simpa using hne) hsecond.nodup, List.nil_append, List.singleton_append]
  rw [htext, parse?, hreads.statements? (by simp [headerText]), Option.bind_some,
    Assembly.table?, List.append_nil, ← List.cons_append, hfold, Option.bind_eq_bind,
    Option.bind_some]
  simp only [tableOf, Node.toToml, tableOf_settingNode, Option.pure_def]

end ListingAttributes.Toml
