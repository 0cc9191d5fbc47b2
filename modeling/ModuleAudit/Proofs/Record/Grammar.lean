import ModuleAudit.Proofs.Path.Segments
import ModuleAudit.Proofs.Record.Acceptance
import ModuleAudit.Proofs.Record.RoundTrip

/-!
# The grammar of records

What an entry of a fact map has to look like, clause by clause and without the
readers. A clause speaks about the fields of one object: which of them may be
left out, and what stands in those that are there. The readers accept exactly
the values of their clauses, and an accepted list of items gives one result for
each item, in their order.

One value is shown even where it follows the grammar, the form of an import. Where a
reader does not accept, it refuses a value that breaks a clause, or it gives up on one
that it was about to show.
-/

namespace ModuleAudit

namespace Grammar

/-- A field with two names. The first name decides wherever it is there, even as
null. -/
def either (value : Json) (name other : Text) : Option Json :=
  (value.field? name).or (value.field? other)

/-- A field that may be left out or null, and has a value of one sort otherwise. -/
inductive Optional {α : Type} (sort : α → Json) : Option Json → Prop
  | absent : Optional sort none
  | null : Optional sort (some .null)
  | given (a : α) : Optional sort (some (sort a))

/-- A line number is an integer, which a truth value is not. -/
abbrev Line : Option Json → Prop := Optional Json.int

/-- A name is a text. -/
abbrev Name : Option Json → Prop := Optional Json.str

/-- A name that names nothing. -/
inductive Blank : Option Json → Prop
  | absent : Blank none
  | null : Blank (some .null)
  | empty : Blank (some (.str []))

/-- The items of a list; whatever else is accepted in place of one has none. -/
def items : Option Json → List Json
  | some (.arr items) => items
  | _ => []

/-- A list whose items are all of one form. Whatever does not count as given may
stand in its place. -/
inductive Items (form : Json → Prop) : Option Json → Prop
  | absent : Items form none
  | vain {value : Json} (notGiven : value.isGiven = false) : Items form (some value)
  | list {items : List Json} (each : ∀ item ∈ items, form item) : Items form (some (.arr items))

def bindingKinds : List Text := ["named", "default", "namespace"]

/-- A binding has a kind and two names, of which a named one needs at least one. -/
structure IsBinding (value : Json) : Prop where
  object : ∃ fields, value = .obj fields
  kind : ∃ word ∈ bindingKinds, either value "kind" "type" = some (.str word)
  importedName : Name (either value "importedName" "imported")
  localName : Name (either value "localName" "local")
  named : either value "kind" "type" = some (.str "named") →
    ¬ (Blank (either value "importedName" "imported") ∧ Blank (either value "localName" "local"))

/-- An import has a source; its line and its bindings may be left out. -/
structure IsImport (value : Json) : Prop where
  object : ∃ fields, value = .obj fields
  source : ∃ source, source ≠ [] ∧ value.field? "source" = some (.str source)
  line : Line (value.field? "line")
  bindings : Items IsBinding (value.field? "specifiers")

/-- The form of an import can be shown, where one is given. -/
def FormShown (l : Limits) (item : Json) : Prop :=
  ∀ form, item.field? "type" = some form → form.isGiven = true →
    ∃ word, form.displayed l = .ok word

end Grammar

theorem BindingKind.name_injective : Function.Injective BindingKind.name := by
  intro kind kind' same
  cases kind <;> cases kind' <;> first | rfl | exact absurd same (by decide)

namespace Record

open Grammar

variable {l : Limits}

/-! ## Fields -/

theorem optional_iff {α : Type} {sort : α → Json} {field : Option Json} :
    Optional sort field ↔ ∃ a : Option α, field.getD .null = (a.map sort).getD .null := by
  constructor
  · intro h
    cases h with
    | absent => exact ⟨none, rfl⟩
    | null => exact ⟨none, rfl⟩
    | given a => exact ⟨some a, rfl⟩
  · rintro ⟨a, h⟩
    cases field with
    | none => exact .absent
    | some value =>
      obtain rfl : value = (a.map sort).getD .null := h
      cases a with
      | none => exact .null
      | some a => exact .given a

theorem readLine_eq_ok_iff {place : Text} {value : Json} {line : Option Int} :
    readLine l place value = .ok line ↔ value = (line.map Json.int).getD .null := by
  constructor
  · intro h
    cases value with
    | null => cases h; rfl
    | int i => cases h; rfl
    | _ => exact absurd h refuseShowing_ne_ok
  · rintro rfl
    cases line <;> rfl

theorem readName_eq_ok_iff {place : Text} {fault : RecordFault} {value : Json}
    {name : Option Text} :
    readName place fault value = .ok name ↔ value = (name.map Json.str).getD .null := by
  constructor
  · intro h
    cases value with
    | null => cases h; rfl
    | str s => cases h; rfl
    | _ => cases h
  · rintro rfl
    cases name <;> rfl

/-- A name that was read is blank exactly when its field is. -/
theorem blank_iff {field : Option Json} {name : Option Text}
    (read : field.getD .null = (name.map Json.str).getD .null) :
    Blank field ↔ given name = none := by
  cases field with
  | none =>
    cases name with
    | none => exact iff_of_true .absent rfl
    | some s => cases read
  | some value =>
    obtain rfl : value = (name.map Json.str).getD .null := read
    cases name with
    | none => exact iff_of_true .null rfl
    | some s =>
      cases s with
      | nil => exact iff_of_true .empty rfl
      | cons c s =>
        refine iff_of_false (fun h => ?_) (fun h => ?_)
        · cases h
        · simp [given] at h

theorem bindingKindOf?_eq_some_iff {value : Json} {kind : BindingKind} :
    bindingKindOf? value = some kind ↔ value = .str kind.name := by
  constructor
  · intro h
    cases value with
    | str word =>
      simp only [bindingKindOf?] at h
      split_ifs at h <;> cases h <;> subst word <;> rfl
    | _ => cases h
  · rintro rfl
    cases kind <;> decide

/-- Every kind of binding has its word in the grammar. -/
theorem mem_bindingKinds_iff {word : Text} :
    word ∈ bindingKinds ↔ ∃ kind : BindingKind, kind.name = word := by
  simp only [bindingKinds, List.mem_cons, List.not_mem_nil, or_false]
  constructor
  · rintro (rfl | rfl | rfl)
    · exact ⟨.named, rfl⟩
    · exact ⟨.default, rfl⟩
    · exact ⟨.whole, rfl⟩
  · rintro ⟨kind, rfl⟩
    cases kind <;> decide

theorem itemsOf_eq_some_iff {value : Json} {found : List Json} :
    itemsOf value = some found ↔ value = .arr found ∨ value.isGiven = false ∧ found = [] := by
  unfold itemsOf
  by_cases given : value.isGiven = true
  · rw [if_pos given]
    cases value with
    | arr list => simp [given]
    | _ => simp [given]
  · rw [if_neg given, Bool.not_eq_true] at *
    cases value with
    | arr list =>
      obtain rfl : list = [] := by simpa [Json.isGiven] using given
      simp [given, eq_comm]
    | _ => simp [given, eq_comm]

/-- A list can be traversed exactly when each of its items can be read. -/
theorem exists_mapM_iff {α β ε : Type} {f : α → Except ε β} {l : List α} :
    (∃ results, l.mapM f = .ok results) ↔ ∀ a ∈ l, ∃ b, f a = .ok b := by
  induction l with
  | nil => exact iff_of_true ⟨[], rfl⟩ (by simp)
  | cons a l ih =>
    rw [List.forall_mem_cons, ← ih]
    constructor
    · rintro ⟨results, h⟩
      rw [mapM_eq_ok_iff] at h
      cases h with
      | cons first rest => exact ⟨⟨_, first⟩, ⟨_, mapM_eq_ok_iff.2 rest⟩⟩
    · rintro ⟨⟨b, first⟩, results, rest⟩
      exact ⟨b :: results, mapM_eq_ok_iff.2 (.cons first (mapM_eq_ok_iff.1 rest))⟩

/-- A list of one form is one whose items are found and all of this form. -/
theorem items_iff {form : Json → Prop} {field : Option Json} :
    Items form field ↔
      ∃ found, itemsOf (field.getD .null) = some found ∧ ∀ item ∈ found, form item := by
  constructor
  · intro h
    cases h with
    | absent => exact ⟨[], rfl, by simp⟩
    | vain notGiven => exact ⟨[], itemsOf_eq_some_iff.2 (.inr ⟨notGiven, rfl⟩), by simp⟩
    | list each => exact ⟨_, itemsOf_arr _, each⟩
  · rintro ⟨found, listed, each⟩
    cases field with
    | none => exact .absent
    | some value =>
      obtain rfl | ⟨vain, -⟩ := itemsOf_eq_some_iff.1 listed
      · exact .list each
      · exact .vain vain

/-- A reader of items that accepts one form accepts the lists of that form. -/
theorem exists_items_iff {α : Type} {form : Json → Prop} {read : Json → Result α}
    (accepts : ∀ item, (∃ a, read item = .ok a) ↔ form item) (field : Option Json) :
    (∃ found results, itemsOf (field.getD .null) = some found ∧ found.mapM read = .ok results) ↔
      Items form field := by
  simp only [items_iff, exists_and_left, exists_mapM_iff, accepts]

theorem getD_null_eq_str_iff {field : Option Json} {text : Text} :
    field.getD .null = .str text ↔ field = some (.str text) := by
  cases field <;> simp

theorem exists_readBinding_iff (place : Text) (value : Json) :
    (∃ b, readBinding l place value = .ok b) ↔ IsBinding value := by
  cases value with
  | obj fields =>
    constructor
    · rintro ⟨b, h⟩
      obtain ⟨kind, localName, himported, hlocal, named, -⟩ := readBinding_eq_ok_iff.1 h
      rw [bindingKindOf?_eq_some_iff] at kind
      rw [readName_eq_ok_iff] at himported hlocal
      have word := getD_null_eq_str_iff.1 kind
      refine ⟨⟨fields, rfl⟩, ⟨_, mem_bindingKinds_iff.2 ⟨b.kind, rfl⟩, word⟩,
        optional_iff.2 ⟨_, himported⟩, optional_iff.2 ⟨_, hlocal⟩, ?_⟩
      rintro isNamed ⟨blankImported, blankLocal⟩
      apply named
      constructor
      · have same : b.kind.name = BindingKind.named.name :=
          Json.str.inj (Option.some.inj (word.symm.trans isNamed))
        exact BindingKind.name_injective same
      · rw [(blank_iff hlocal).1 blankLocal, (blank_iff himported).1 blankImported]
        rfl
    · rintro ⟨-, ⟨word, known, hword⟩, imported, shown, named⟩
      obtain ⟨kind, rfl⟩ := mem_bindingKinds_iff.1 known
      obtain ⟨importedName, himported⟩ := optional_iff.1 imported
      obtain ⟨localName, hlocal⟩ := optional_iff.1 shown
      let shown := (given localName).or (given importedName)
      refine ⟨⟨kind, shown.getD "*", importedName⟩, readBinding_eq_ok_iff.2
        ⟨bindingKindOf?_eq_some_iff.2 (getD_null_eq_str_iff.2 hword), localName,
          readName_eq_ok_iff.2 himported, readName_eq_ok_iff.2 hlocal, ?_, rfl⟩⟩
      rintro ⟨rfl, vain⟩
      obtain ⟨noLocal, noImported⟩ := Option.or_eq_none_iff.1 vain
      exact named hword ⟨(blank_iff himported).2 noImported, (blank_iff hlocal).2 noLocal⟩
  | _ => exact iff_of_false (fun ⟨_, h⟩ => nomatch h) fun h => nomatch h.object.choose_spec

theorem formShown_iff {item : Json} :
    FormShown l item ↔ ∃ form, formOf l (item.fieldOrNull "type") = .ok form := by
  simp only [formOf_eq_ok_iff, FormShown, Json.fieldOrNull]
  cases item.field? "type" with
  | none => exact iff_of_true (fun _ none => nomatch none) ⟨_, .inr ⟨rfl, rfl⟩⟩
  | some value => cases given : value.isGiven <;> simp [given]

/-- Only its form stands between an import that follows the grammar and its
statement. -/
theorem readImport_of_isImport {value : Json} (wellFormed : IsImport value) (path : Text) :
    ∃ source line bindings, readImport l path value =
      (formOf l (value.fieldOrNull "type")).map fun form => { source, line, bindings, form } := by
  obtain ⟨⟨fields, rfl⟩, ⟨source, nonempty, hsource⟩, hline, hbindings⟩ := wellFormed
  obtain ⟨line, hline⟩ := optional_iff.1 hline
  obtain ⟨found, bindings, listed, hbindings⟩ :=
    (exists_items_iff (exists_readBinding_iff (l := l) (path ++ " (" ++ source ++ ")")) _).2
      hbindings
  have hline : readLine l (path ++ " (" ++ source ++ ")")
      (Json.fieldOrNull (.obj fields) "line") = .ok line := readLine_eq_ok_iff.2 hline
  have listed : itemsOf (Json.fieldOrNull (.obj fields) "specifiers") = some found := listed
  refine ⟨source, line, bindings, ?_⟩
  simp only [readImport, hsource, List.isEmpty_iff, nonempty, if_false, listed, hline, hbindings]
  cases formOf l (Json.fieldOrNull (.obj fields) "type") <;> rfl

theorem exists_readImport_iff (path : Text) (value : Json) :
    (∃ s, readImport l path value = .ok s) ↔ IsImport value ∧ FormShown l value := by
  rw [formShown_iff]
  constructor
  · rintro ⟨s, h⟩
    cases value with
    | obj fields =>
      obtain ⟨source, nonempty, found, listed, line, bindings, form⟩ := readImport_eq_ok_iff.1 h
      refine ⟨⟨⟨fields, rfl⟩, ⟨s.source, nonempty, source⟩, ?_, ?_⟩, s.form, form⟩
      · exact optional_iff.2 ⟨s.line, readLine_eq_ok_iff.1 line⟩
      · exact (exists_items_iff (exists_readBinding_iff _) _).1
          ⟨found, s.bindings, listed, bindings⟩
    | _ => cases h
  · rintro ⟨wellFormed, form, hform⟩
    obtain ⟨source, line, bindings, read⟩ := readImport_of_isImport wellFormed path
    exact ⟨_, by rw [read, hform]; rfl⟩

theorem source_of_readImport {path : Text} {item : Json} {s : ImportStatement}
    (h : readImport l path item = .ok s) : item.field? "source" = some (.str s.source) := by
  cases item with
  | obj fields => exact (readImport_eq_ok_iff.1 h).1
  | _ => cases h

/-- Some value of a list cannot be shown, for the given reason. -/
def Unshown (l : Limits) (values : List Json) (reason : ShowError) : Prop :=
  ∃ value ∈ values, value.shown l = .error reason

theorem Unshown.mono {values values' : List Json} {reason : ShowError}
    (h : Unshown l values reason) (within : values ⊆ values') : Unshown l values' reason := by
  obtain ⟨value, listed, shown⟩ := h
  exact ⟨value, within listed, shown⟩

end Record

namespace Record

open Grammar

end Record

end ModuleAudit
