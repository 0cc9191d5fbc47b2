import ModuleAudit.Proofs.Record.Acceptance
import ModuleAudit.Report

/-!
# Reading what was written

Each reader is described by what it accepts: which fields it looks at, and how
they make up the result. From the description follow both what every result has
in common, names that are not empty, and that a value with such names is read
back from what is written for it.
-/

namespace ModuleAudit

/-! ## Shown values -/

namespace Decimal

theorem layout_ne_nil (digits : List Char) (e : Int) : layout digits e ≠ [] := by
  unfold layout
  split
  · simp [exponentText]
  · split
    · simp
    · dsimp only
      split <;> simp

theorem toList_text_ne_nil (x : Binary64) : (text x).toList ≠ [] := by
  cases x with
  | nan => decide
  | infinite negative => cases negative <;> decide
  | finite negative m e =>
    rw [text]
    split
    · simp
    · simp [layout_ne_nil]

end Decimal

namespace Json

theorem toList_intText_ne_nil (i : Int) : (intText i).toList ≠ [] := by
  cases i with
  | ofNat n => simp [intText]
  | negSucc n => simp [intText]

/-- Every value shows as some text. -/
theorem literal_ne_nil (value : Json) : value.literal ≠ [] := by
  cases value with
  | null => decide
  | bool b => cases b <;> decide
  | int i => simpa [literal, Text.ofString] using toList_intText_ne_nil i
  | float x => simpa [literal, Text.ofString] using Decimal.toList_text_ne_nil x
  | str s => simp [literal, Text.quoted]
  | arr items => simp [literal, Text.ofString]
  | obj fields => simp [literal, Text.ofString]

theorem displayed_ne_nil {l : Limits} {value : Json} {text : Text} (given : value.isGiven = true)
    (displayed : value.displayed l = .ok text) : text ≠ [] := by
  have literal (written : value.shown l = .ok text) : text ≠ [] := by
    unfold shown at written
    split at written <;> cases written
    exact literal_ne_nil value
  cases value with
  | str s =>
    cases displayed
    simpa [isGiven] using given
  | _ => exact literal displayed

end Json

/-! ## What readers accept -/

/-- The names that reading never leaves empty. -/
structure ImportStatement.IsProper (s : ImportStatement) : Prop where
  source : s.source ≠ []
  form : s.form ≠ []
  bindings : ∀ b ∈ s.bindings, b.localName ≠ []

namespace Record

variable {l : Limits}

/-- The form of an import is the word for it, shown, or that for an import. -/
theorem formOf_eq_ok_iff {value : Json} {form : Text} :
    formOf l value = .ok form ↔
      value.isGiven = true ∧ value.displayed l = .ok form ∨
        value.isGiven = false ∧ form = "import" := by
  unfold formOf
  cases value.isGiven with
  | false => simp [eq_comm]
  | true => cases value.displayed l <;> simp [Except.mapError]

theorem ne_nil_of_formOf {value : Json} {form : Text} (h : formOf l value = .ok form) :
    form ≠ [] := by
  obtain ⟨given, displayed⟩ | ⟨-, rfl⟩ := formOf_eq_ok_iff.1 h
  · exact Json.displayed_ne_nil given displayed
  · decide

/-- A binding is read from its kind and its two names; the local name is the first
of them that is not empty. -/
theorem readBinding_eq_ok_iff {place : Text} {fields : List (Text × Json)} {b : Binding} :
    readBinding l place (.obj fields) = .ok b ↔
      bindingKindOf? (fieldOr (.obj fields) "kind" "type") = some b.kind ∧
      ∃ localName,
        readName place .importedNameNotText (fieldOr (.obj fields) "importedName" "imported") =
          .ok b.importedName ∧
        readName place .localNameNotText (fieldOr (.obj fields) "localName" "local") =
          .ok localName ∧
        ¬ (b.kind = .named ∧ (given localName).or (given b.importedName) = none) ∧
        b.localName = ((given localName).or (given b.importedName)).getD "*" := by
  rw [readBinding]
  cases bindingKindOf? (fieldOr (.obj fields) "kind" "type") with
  | none => simp
  | some kind =>
    constructor
    · intro h
      obtain ⟨imported, himported, h⟩ := ok_steps_of_bind h
      obtain ⟨localName, hlocal, h⟩ := ok_steps_of_bind h
      dsimp only at h
      split at h
      · cases h
      · rename_i named
        cases h
        exact ⟨rfl, localName, himported, hlocal, named, rfl⟩
    · rintro ⟨same, localName, himported, hlocal, named, shown⟩
      cases Option.some.inj same
      refine bind_of_ok_steps himported (bind_of_ok_steps hlocal ?_)
      dsimp only
      rw [if_neg named, ← shown]

theorem ne_nil_of_given {name : Option Text} {text : Text} (h : given name = some text) :
    text ≠ [] := by
  rw [given, Option.filter_eq_some_iff] at h
  simpa using h.2

theorem localName_ne_nil_of_readBinding {place : Text} {value : Json} {b : Binding}
    (h : readBinding l place value = .ok b) : b.localName ≠ [] := by
  cases value with
  | obj fields =>
    obtain ⟨-, localName, -, -, -, shown⟩ := readBinding_eq_ok_iff.1 h
    rw [shown]
    cases first : given localName with
    | some name => exact ne_nil_of_given first
    | none =>
      cases second : given b.importedName with
      | some name => exact ne_nil_of_given second
      | none => decide
  | _ => cases h

/-- An import statement is read from its source, its line, its bindings and the
word for its form. -/
theorem readImport_eq_ok_iff {path : Text} {fields : List (Text × Json)} {s : ImportStatement} :
    readImport l path (.obj fields) = .ok s ↔
      Json.field? (.obj fields) "source" = some (.str s.source) ∧ s.source ≠ [] ∧
      ∃ items, itemsOf (Json.fieldOrNull (.obj fields) "specifiers") = some items ∧
        readLine l (path ++ " (" ++ s.source ++ ")") (Json.fieldOrNull (.obj fields) "line") =
          .ok s.line ∧
        items.mapM (readBinding l (path ++ " (" ++ s.source ++ ")")) = .ok s.bindings ∧
        formOf l (Json.fieldOrNull (.obj fields) "type") = .ok s.form := by
  rw [readImport]
  constructor
  · intro h
    split at h
    · rename_i source hsource
      split at h
      · cases h
      · rename_i nonempty
        dsimp only at h
        split at h
        · cases h
        · rename_i items hitems
          obtain ⟨line, hline, h⟩ := ok_steps_of_bind h
          obtain ⟨bindings, hbindings, h⟩ := ok_steps_of_bind h
          obtain ⟨form, hform, h⟩ := ok_steps_of_bind h
          cases h
          exact ⟨hsource, by simpa using nonempty, items, hitems, hline, hbindings, hform⟩
    · cases h
  · rintro ⟨hsource, nonempty, items, hitems, hline, hbindings, hform⟩
    rw [hsource]
    dsimp only
    rw [if_neg (by simpa using nonempty), hitems]
    exact bind_of_ok_steps hline (bind_of_ok_steps hbindings (bind_of_ok_steps hform rfl))

theorem isProper_of_readImport {path : Text} {value : Json} {s : ImportStatement}
    (h : readImport l path value = .ok s) : s.IsProper := by
  cases value with
  | obj fields =>
    obtain ⟨-, nonempty, items, -, -, hbindings, form⟩ := readImport_eq_ok_iff.1 h
    refine ⟨nonempty, ne_nil_of_formOf form, fun b hb => ?_⟩
    obtain ⟨item, -, read⟩ := exists_of_mem_mapM hbindings hb
    exact localName_ne_nil_of_readBinding read
  | _ => cases h

/-- An export is read from its name, its kind, its line and its source. -/
theorem readExport_eq_ok_iff {path : Text} {fields : List (Text × Json)} {e : ExportDecl} :
    readExport l path (.obj fields) = .ok e ↔
      Json.field? (.obj fields) "name" = some (.str e.name) ∧ e.name ≠ [] ∧
      exportKindOf? e.name (Json.fieldOrNull (.obj fields) "kind") = some e.kind ∧
      readLine l (path ++ " (" ++ e.name ++ ")") (Json.fieldOrNull (.obj fields) "line") =
        .ok e.line ∧
      e.source = match Json.field? (.obj fields) "source" with
        | some (.str source) => some source
        | _ => none := by
  rw [readExport]
  constructor
  · intro h
    split at h
    · rename_i name hname
      split at h
      · cases h
      · rename_i nonempty
        dsimp only at h
        split at h
        · exact absurd h refuseShowing_ne_ok
        · rename_i kind hkind
          obtain ⟨line, hline, h⟩ := ok_steps_of_bind h
          cases h
          exact ⟨hname, by simpa using nonempty, hkind, hline, rfl⟩
    · cases h
  · rintro ⟨hname, nonempty, hkind, hline, source⟩
    rw [hname]
    dsimp only
    rw [if_neg (by simpa using nonempty), hkind]
    refine bind_of_ok_steps hline ?_
    cases e
    cases source
    rfl

theorem name_ne_nil_of_readExport {path : Text} {value : Json} {e : ExportDecl}
    (h : readExport l path value = .ok e) : e.name ≠ [] := by
  cases value with
  | obj fields => exact (readExport_eq_ok_iff.1 h).2.1
  | _ => cases h

/-- Facts are read from the kind of file, the imports and the exports. -/
theorem readFacts_eq_ok_iff {path : Text} {fields : List (Text × Json)} {facts : ModuleFacts} :
    readFacts l path (.obj fields) = .ok facts ↔
      fileTypeOf? (((Json.field? (.obj fields) "fileType").or
        (Json.field? (.obj fields) "file_type")).getD (.str "code")) = some facts.fileType ∧
      ∃ imports exports, itemsOf (Json.fieldOrNull (.obj fields) "imports") = some imports ∧
        itemsOf (Json.fieldOrNull (.obj fields) "exports") = some exports ∧
        imports.mapM (readImport l path) = .ok facts.imports ∧
        exports.mapM (readExport l path) = .ok facts.exports := by
  rw [readFacts]
  constructor
  · intro h
    split at h
    · exact absurd h refuseShowing_ne_ok
    · rename_i fileType htype
      split at h
      · cases h
      · rename_i rawImports himports
        split at h
        · cases h
        · rename_i rawExports hexports
          obtain ⟨imports, readImports, h⟩ := ok_steps_of_bind h
          obtain ⟨exports, readExports, h⟩ := ok_steps_of_bind h
          cases h
          exact ⟨htype, rawImports, rawExports, himports, hexports, readImports, readExports⟩
  · rintro ⟨htype, rawImports, rawExports, himports, hexports, readImports, readExports⟩
    rw [htype, himports, hexports]
    exact bind_of_ok_steps readImports (bind_of_ok_steps readExports rfl)

/-- The names in facts that were read are not empty. -/
theorem isProper_of_readFacts {path : Text} {value : Json} {facts : ModuleFacts}
    (h : readFacts l path value = .ok facts) :
    (∀ s ∈ facts.imports, s.IsProper) ∧ ∀ e ∈ facts.exports, e.name ≠ [] := by
  cases value with
  | obj fields =>
    obtain ⟨-, rawImports, rawExports, -, -, imports, exports⟩ := readFacts_eq_ok_iff.1 h
    refine ⟨fun s hs => ?_, fun e he => ?_⟩
    · obtain ⟨item, -, read⟩ := exists_of_mem_mapM imports hs
      exact isProper_of_readImport read
    · obtain ⟨item, -, read⟩ := exists_of_mem_mapM exports he
      exact name_ne_nil_of_readExport read
  | _ => cases h

/-! ## Reading back -/

@[simp] theorem itemsOf_arr (items : List Json) : itemsOf (.arr items) = some items := by
  cases items <;> rfl

@[simp] theorem readLine_ofLine (place : Text) (line : Option Int) :
    readLine l place (Json.ofLine line) = .ok line := by
  cases line <;> rfl

theorem formOf_str {form : Text} (proper : form ≠ []) : formOf l (.str form) = .ok form :=
  formOf_eq_ok_iff.2 (.inl ⟨by simpa [Json.isGiven] using proper, rfl⟩)

theorem readBinding_toJson {b : Binding} (proper : b.localName ≠ []) (place : Text) :
    readBinding l place b.toJson = .ok b := by
  have kind : fieldOr b.toJson "kind" "type" = .str b.kind.name := rfl
  have localName : fieldOr b.toJson "localName" "local" = .str b.localName := rfl
  have importedName : fieldOr b.toJson "importedName" "imported" = Json.ofText? b.importedName := by
    cases h : b.importedName <;> simp only [Binding.toJson, h] <;> rfl
  have shown : (given (some b.localName)).or (given b.importedName) =
      some b.localName := by
    simp [given, proper]
  refine readBinding_eq_ok_iff.2 ⟨?_, some b.localName, ?_, ?_, ?_, ?_⟩
  · refine (congrArg bindingKindOf? kind).trans ?_
    cases b.kind <;> decide
  · refine (congrArg (readName place _) importedName).trans ?_
    cases b.importedName <;> rfl
  · exact congrArg (readName place _) localName
  · simp [shown]
  · simp [shown]

/-- An internal import is written with its whole statement. -/
theorem readImport_toJson {i : InternalImport} (proper : i.statement.IsProper) (path : Text) :
    readImport l path i.toJson = .ok i.statement := by
  refine readImport_eq_ok_iff.2
    ⟨rfl, proper.source, i.statement.bindings.map Binding.toJson, ?_, ?_, ?_, ?_⟩
  · exact itemsOf_arr _
  · exact readLine_ofLine _ i.statement.line
  · refine (mapM_map_eq_ok fun b hb => ?_).trans (congrArg _ (List.map_id _))
    exact readBinding_toJson (proper.bindings b hb) _
  · exact formOf_str proper.form

theorem readExport_toJson {e : ExportDecl} (proper : e.name ≠ []) (path : Text) :
    readExport l path e.toJson = .ok e := by
  have kind : exportKindOf? e.name (.str e.kind.name) = some e.kind := by
    cases e.kind <;> rfl
  refine readExport_eq_ok_iff.2 ⟨rfl, proper, kind, readLine_ofLine _ e.line, ?_⟩
  cases e.source <;> rfl

end Record

/-- The facts that the node of a module tells about its place in the project. -/
def ModuleNode.internalFacts (n : ModuleNode) : ModuleFacts where
  fileType := n.fileType
  imports := n.imports.map InternalImport.statement
  exports := n.exports

/-- What is written for a node is read as its internal facts. -/
theorem Record.readFacts_toJson {l : Limits} {n : ModuleNode}
    (imports : ∀ i ∈ n.imports, i.statement.IsProper) (exports : ∀ e ∈ n.exports, e.name ≠ []) (path : Text) :
    readFacts l path n.toJson = .ok n.internalFacts := by
  have fileType : fileTypeOf? (.str n.fileType.name) = some n.fileType := by
    cases n.fileType <;> decide
  refine readFacts_eq_ok_iff.2 ⟨fileType, n.imports.map InternalImport.toJson,
    n.exports.map ExportDecl.toJson, itemsOf_arr _, itemsOf_arr _, ?_, ?_⟩
  · exact mapM_map_eq_ok fun i hi => readImport_toJson (imports i hi) path
  · refine (mapM_map_eq_ok fun e he => ?_).trans (congrArg _ (List.map_id _))
    exact readExport_toJson (exports e he) path

end ModuleAudit
