import ModuleAudit.Proofs.Record.Grammar
import ModuleAudit.Resolver

/-!
# Records that differ in external imports

An import whose specifier is not relative leads out of the project. Putting such
imports anywhere into the list of a record, or taking them out, leaves the record
accepted, refused or given up as it was: each of them can be read, so the first item that
cannot stays the first. What is read differs in these imports only.
-/

namespace ModuleAudit

/-- The import statements that do not lead out of the project. -/
def internalOf (statements : List ImportStatement) : List ImportStatement :=
  statements.filter fun s => isRelativeSpecifier s.source

/-- The facts about a module without the imports that lead out of the project. -/
def ModuleFacts.inside (facts : ModuleFacts) : ModuleFacts :=
  { facts with imports := internalOf facts.imports }

namespace Grammar

/-- A well-formed import that leads out of the project, of a form that can be shown. -/
structure IsExternalImport (l : Limits) (item : Json) : Prop extends IsImport item where
  shown : FormShown l item
  outward : ∀ source, item.field? "source" = some (.str source) →
    isRelativeSpecifier source = false

/-- An import without a form has nothing to show. -/
theorem FormShown.of_absent {l : Limits} {item : Json} (absent : item.field? "type" = none) :
    FormShown l item := by
  intro form found
  cases absent.symm.trans found

theorem IsExternalImport.of_source {l : Limits} {item : Json} {source : Text}
    (wellFormed : IsImport item) (shown : FormShown l item)
    (leads : item.field? "source" = some (.str source))
    (outward : isRelativeSpecifier source = false) : IsExternalImport l item where
  toIsImport := wellFormed
  shown := shown
  outward other found := by
    rw [leads] at found
    exact Json.str.inj (Option.some.inj found) ▸ outward

/-- Two lists of imports differ in external ones only: some are put in, others are
taken out, and all other items stay in their order, well formed or not. -/
inductive SameInternalItems (l : Limits) : List Json → List Json → Prop
  | nil : SameInternalItems l [] []
  | keep {items items' : List Json} (item : Json) (rest : SameInternalItems l items items') :
      SameInternalItems l (item :: items) (item :: items')
  | put {items items' : List Json} {item : Json} (external : IsExternalImport l item)
      (rest : SameInternalItems l items items') : SameInternalItems l items (item :: items')
  | take {items items' : List Json} {item : Json} (external : IsExternalImport l item)
      (rest : SameInternalItems l items items') : SameInternalItems l (item :: items) items'

/-- Two values for the facts about a module differ in external imports only. Whatever
does not count as given may stand for the empty list. -/
inductive SameInside (l : Limits) : Json → Json → Prop
  | same (value : Json) : SameInside l value value
  | edited {fields fields' : List (Text × Json)} {items items' : List Json}
      (others : ∀ name, name ≠ "imports" →
        Json.field? (.obj fields') name = Json.field? (.obj fields) name)
      (before : Record.itemsOf (Json.fieldOrNull (.obj fields) "imports") = some items)
      (after : Record.itemsOf (Json.fieldOrNull (.obj fields') "imports") = some items')
      (imports : SameInternalItems l items items') : SameInside l (.obj fields) (.obj fields')

/-- A record with another list of imports. -/
theorem SameInside.of_items {l : Limits} {items items' : List Json}
    (imports : SameInternalItems l items items') (rest : List (Text × Json)) :
    SameInside l (.obj (("imports", .arr items) :: rest))
      (.obj (("imports", .arr items') :: rest)) :=
  .edited (fun name other => by simp [Json.field?, Table.find, Ne.symm other])
    (Record.itemsOf_arr items) (Record.itemsOf_arr items') imports

end Grammar

namespace Record

open Grammar

variable {l : Limits}

/-- An external import is read, whatever module it stands in. -/
theorem exists_readImport_of_external {item : Json} (external : IsExternalImport l item)
    (path : Text) :
    ∃ s, readImport l path item = .ok s ∧ isRelativeSpecifier s.source = false := by
  obtain ⟨s, read⟩ := (exists_readImport_iff path item).2 ⟨external.toIsImport, external.shown⟩
  exact ⟨s, read, external.outward _ (source_of_readImport read)⟩

/-- Lists that differ in external imports are read alike, up to these. -/
theorem mapM_readImport_of_sameInternalItems {items items' : List Json}
    (h : SameInternalItems l items items') (path : Text) :
    (items'.mapM (readImport l path)).map internalOf =
      (items.mapM (readImport l path)).map internalOf := by
  have first {item : Json} {s : ImportStatement} (read : readImport l path item = .ok s)
      (items : List Json) : ((item :: items).mapM (readImport l path)).map internalOf =
        ((items.mapM (readImport l path)).map internalOf).map (internalOf [s] ++ ·) := by
    rw [mapM_cons_of_ok read]
    cases items.mapM (readImport l path) with
    | error error => rfl
    | ok statements => exact congrArg Except.ok (List.filter_append [s] statements)
  have skip {item : Json} (external : IsExternalImport l item) (items : List Json) :
      ((item :: items).mapM (readImport l path)).map internalOf =
        (items.mapM (readImport l path)).map internalOf := by
    obtain ⟨s, read, outward⟩ := exists_readImport_of_external external path
    have none : internalOf [s] = [] := by simp [internalOf, outward]
    rw [first read, none]
    cases items.mapM (readImport l path) <;> rfl
  induction h with
  | nil => rfl
  | @keep items items' item _ ih =>
    cases read : readImport l path item with
    | error error => rw [mapM_cons_of_error read, mapM_cons_of_error read]
    | ok s => rw [first read, first read, ih]
  | put external _ ih => rw [skip external, ih]
  | take external _ ih => rw [skip external, ih]

/-- Facts that differ in external imports are accepted or refused alike. -/
theorem readFacts_of_sameInside {value value' : Json} (h : SameInside l value value')
    (path : Text) :
    (readFacts l path value').map ModuleFacts.inside =
      (readFacts l path value).map ModuleFacts.inside := by
  cases h with
  | same => rfl
  | @edited fields fields' items items' others before after imports =>
    have exports : Json.fieldOrNull (.obj fields') "exports" =
        Json.fieldOrNull (.obj fields) "exports" := by
      rw [Json.fieldOrNull, others "exports" (by decide), Json.fieldOrNull]
    -- The imports are read before the exports, and only they are changed by `inside`.
    have inward (fileType : FileType) (rawExports : List Json)
        (read : Result (List ImportStatement)) :
        (do
          let imports ← read
          let exports ← rawExports.mapM (readExport l path)
          .ok { fileType, imports, exports } : Result ModuleFacts).map ModuleFacts.inside =
          (do
            let imports ← read.map internalOf
            let exports ← rawExports.mapM (readExport l path)
            .ok { fileType, imports, exports } : Result ModuleFacts) := by
      cases read with
      | error error => rfl
      | ok imports => cases rawExports.mapM (readExport l path) <;> rfl
    simp only [readFacts, others "fileType" (by decide), others "file_type" (by decide), exports,
      before, after]
    cases fileTypeOf? _ with
    | none => rfl
    | some fileType =>
      cases itemsOf (Json.fieldOrNull (.obj fields) "exports") with
      | none => rfl
      | some rawExports =>
        dsimp only
        rw [inward, inward, mapM_readImport_of_sameInternalItems imports path]

theorem read_of_sameInside (key : Json) {value value' : Json} (h : SameInside l value value') :
    (read l key value').map (Prod.map id ModuleFacts.inside) =
      (read l key value).map (Prod.map id ModuleFacts.inside) := by
  have inward (path : Text) (facts : Result ModuleFacts) :
      (do
        let facts ← facts
        .ok (path, facts) : Result (Text × ModuleFacts)).map (Prod.map id ModuleFacts.inside) =
        (facts.map ModuleFacts.inside).map fun facts => (path, facts) := by
    cases facts <;> rfl
  rw [read, read]
  cases readIdentity l key with
  | error error => rfl
  | ok path =>
    change (do
      let facts ← readFacts l path value'
      .ok (path, facts) : Result (Text × ModuleFacts)).map _ =
      (do
        let facts ← readFacts l path value
        .ok (path, facts) : Result (Text × ModuleFacts)).map _
    rw [inward, inward, readFacts_of_sameInside h]

/-- What stops the reading of an entry does not lie in external imports. -/
theorem read_eq_error_iff_of_sameInside (key : Json) {value value' : Json}
    (h : SameInside l value value') {stop : RecordStop} :
    read l key value' = .error stop ↔ read l key value = .error stop := by
  have inside := read_of_sameInside key h
  cases read : Record.read l key value <;> cases read' : Record.read l key value' <;>
    simp_all [Except.map]

end Record

namespace FactMap

/-- Two fact maps differ in external imports only: they have the same keys in the same
order, with values that do. -/
def SameInside (l : Limits) (m m' : FactMap) : Prop :=
  List.Forall₂ (fun e e' => e'.1 = e.1 ∧ Grammar.SameInside l e.2 e'.2) m.entries m'.entries

namespace SameInside

variable {l : Limits} {m m' : FactMap} (h : SameInside l m m')

include h

/-- What is selected entry by entry agrees if it does so for each entry. -/
theorem filterMap_entries {β : Type} {f : Json × Json → Option β}
    (agree : ∀ key value value', Grammar.SameInside l value value' →
      f (key, value') = f (key, value)) :
    m'.entries.filterMap f = m.entries.filterMap f := by
  unfold SameInside at h
  generalize m.entries = entries, m'.entries = entries' at h
  induction h with
  | nil => rfl
  | @cons e e' entries entries' first _ ih =>
    obtain ⟨key, value⟩ := e
    obtain ⟨key', value'⟩ := e'
    obtain ⟨rfl, inside⟩ := first
    rw [List.filterMap_cons, List.filterMap_cons, agree key' value value' inside, ih]

theorem size_eq : m'.size = m.size := h.length_eq.symm

/-- The same entries are refused, for the same reasons. -/
theorem errors_eq : m'.errors l = m.errors l := by
  refine h.filterMap_entries fun key value value' same => Option.ext fun error => ?_
  simp only [errorOf_eq_some_iff, Record.read_eq_error_iff_of_sameInside key same]

/-- The same entry is the first that cannot be read, for the same reason. -/
theorem obstacle?_eq : m'.obstacle? l = m.obstacle? l := by
  rw [obstacle?_eq_head?, obstacle?_eq_head?]
  refine congrArg List.head? (h.filterMap_entries fun key value value' same => ?_)
  refine Option.ext fun error => ?_
  simp only [obstacleOf_eq_some_iff, Record.read_eq_error_iff_of_sameInside key same]

/-- The accepted modules are the same up to their external imports. -/
theorem modules_eq :
    (m'.modules l).map (fun _ => ModuleFacts.inside) =
      (m.modules l).map fun _ => ModuleFacts.inside := by
  ext1
  rw [Table.entries_map, Table.entries_map, entries_modules, entries_modules, accepted, accepted,
    List.map_filterMap, List.map_filterMap]
  refine h.filterMap_entries fun key value value' same => ?_
  have accepts (e : Json × Json) : (moduleOf l e).map (fun e => (e.1, e.2.inside)) =
      ((Record.read l e.1 e.2).map (Prod.map id ModuleFacts.inside)).toOption := by
    rw [moduleOf_eq]
    cases Record.read l e.1 e.2 <;> rfl
  rw [accepts, accepts, Record.read_of_sameInside key same]

end SameInside

end FactMap

end ModuleAudit
