import ModuleAudit.CommandLine.Session
import ModuleAudit.Proofs.Analysis.Verdicts
import ModuleAudit.Proofs.CommandLine.FileTree
import ModuleAudit.Proofs.Settings.Sections

/-!
# How a run ends

A run stops with code 1 if its input holds no module map. Otherwise it goes by the
root, the settings and the manifest that it finds. Settings and a manifest that are
missing, cannot be opened or are no JSON are passed over; but a file that is no text,
or that holds an integer with too many digits, ends the run with a failure, as do a
root that is no text and an analysis that fails in one of its stages. Values that are
nested too deep end the run with a failure wherever they stand, in the input as well. A
run that neither stops nor fails saves its report, and no other run writes anything.
-/

namespace ModuleAudit

namespace Document

def isThere : Document → Bool
  | .missing => false
  | _ => true

/-- The fault that is not passed over in settings and in a manifest. -/
def fault? : Document → Option ContentError
  | .faulty .notJson => none
  | .faulty e => some e
  | _ => none

/-- The settings in a document: the defaults unless it is a JSON value. -/
def settings : Document → Settings
  | .value json => .lenient json
  | _ => {}

/-- The manifest in a document: none unless it is a JSON object. -/
def manifest? : Document → Option Json
  | .value (.obj fields) => some (.obj fields)
  | _ => none

end Document

/-! ## Contents that are nested too deep -/

namespace Json

/-- A list that is opened for every level that there is room for, and once more. -/
theorem Parser.value_of_brackets (l : Limits) {room depth fuel : Nat} (deep : room < depth)
    (fueled : 2 * room < fuel) (rest : List Char) :
    value l room fuel (List.replicate depth '[' ++ rest) = .error (.tooDeep .array) := by
  induction room generalizing depth fuel with
  | zero =>
    obtain ⟨depth, rfl⟩ := Nat.exists_eq_add_of_lt deep
    obtain ⟨fuel, rfl⟩ := Nat.exists_eq_add_of_lt fueled
    rw [List.replicate_succ, List.cons_append, value]
    rfl
  | succ room ih =>
    obtain ⟨depth, rfl⟩ : ∃ more, depth = more + 2 := ⟨depth - 2, by omega⟩
    obtain ⟨fuel, rfl⟩ : ∃ more, fuel = more + 2 := ⟨fuel - 2, by omega⟩
    have next : value l room fuel (List.replicate (depth + 1) '[' ++ rest) =
        .error (.tooDeep .array) :=
      ih (by omega) (by omega)
    rw [List.replicate_succ, List.cons_append] at next
    rw [List.replicate_succ, List.replicate_succ, List.cons_append, List.cons_append, value]
    simp [skipBlanks, isBlank, items, next]

theorem parse_of_brackets (l : Limits) {depth : Nat} (deep : l.reading < depth)
    (rest : List Char) :
    parse l (String.ofList (List.replicate depth '[' ++ rest)) = .error (.tooDeep .array) := by
  have start : Parser.skipBlanks (List.replicate depth '[' ++ rest) =
      List.replicate depth '[' ++ rest := by
    obtain ⟨more, rfl⟩ := Nat.exists_eq_add_of_lt deep
    rfl
  have fueled : 2 * l.reading < 2 * (List.replicate depth '[' ++ rest).length + 2 := by
    rw [List.length_append, List.length_replicate]
    omega
  simp only [parse, String.toList_ofList, start, Parser.value_of_brackets l deep fueled]

end Json

/-- A file that opens more lists than can be read. -/
theorem Document.ofLook_of_brackets (l : Limits) {depth : Nat} (deep : l.reading < depth)
    (rest : List Char) :
    ofLook l (.file (String.ofList (List.replicate depth '[' ++ rest)).toUTF8) =
      .faulty (.tooDeep .array) := by
  have decoded (text : String) : String.fromUTF8? text.toUTF8 = some text :=
    dif_pos text.isValidUTF8
  simp only [ofLook, decoded, Json.parse_of_brackets l deep]

namespace Session

theorem settingsFrom_eq (wording : Wording) (path : Text) (d : Document) :
    (settingsFrom wording path d).2 =
      match d.fault? with
      | some e => .error (.content e)
      | none => .ok d.settings := by
  cases d with
  | missing => rfl
  | refused e => rfl
  | faulty e => cases e <;> rfl
  | value json =>
    rw [settingsFrom, Settings.outcome_read_lenient]
    rfl

theorem manifestFrom_eq (wording : Wording) (path : Text) (d : Document) :
    (manifestFrom wording path d).2 =
      match d.fault? with
      | some e => .error (.content e)
      | none => .ok d.manifest? := by
  cases d with
  | missing => rfl
  | refused e => rfl
  | faulty e => cases e <;> rfl
  | value json => cases json <;> rfl

/-! ## What a run goes by -/

section Files

variable (tree : FileTree) (cwd : Place) (s : Surroundings) (a : Arguments)

def documentAt (path : Text) : Document := .ofLook s.limits (tree.look cwd path)

/-- What a run reads for settings: the first that is there. -/
def settingsDocument (root : Option Text) : Document :=
  (((settingsPaths s a root).map (documentAt tree cwd s)).find? Document.isThere).getD .missing

def manifestDocument (root : Option Text) : Document :=
  documentAt tree cwd s (manifestPath s a root)

/-- The project that a run analyses. Without another root it is where the manifest is. -/
def projectOf (root : Option Text) : Project :=
  let manifest := (manifestDocument tree cwd s a root).manifest?
  { settings := (settingsDocument tree cwd s a root).settings
    root := root.or (manifest.map fun _ => Path.parent (manifestPath s a root))
    manifest := manifest.getD .null
    limits := s.limits }

/-- The input is JSON with a module map, beside which a root may be written. -/
def InputHolds (modules : List (Text × Json)) (written : Json) : Prop :=
  ∃ json, documentAt tree cwd s (a.input.getD s.input) = .value json ∧
    mapOf json = some (modules, written)

def InputTooDeep (container : Json.Container) : Prop :=
  documentAt tree cwd s (a.input.getD s.input) = .faulty (.tooDeep container)

/-- The root that a run goes by: the one on the command line unless it is empty, else
the one in the document if that counts as given. -/
inductive RootOf (line : Option Text) (written : Json) : Option Text → Prop
  | line {root : Text} (onLine : given line = some root) : RootOf line written (some root)
  | document {root : Text} (offLine : given line = none) (text : written = .str root)
      (nonempty : root ≠ []) : RootOf line written (some root)
  | none (offLine : given line = none) (vain : written.isGiven = false) :
      RootOf line written none

/-- The facts of the input under absolute paths, and the absolute root. -/
inductive Loads : Loaded → Prop
  | intro {modules : List (Text × Json)} {written : Json} {root : Option Text}
      (input : InputHolds tree cwd s a modules written) (chosen : RootOf a.root written root) :
      Loads
        { facts := factsFrom ((root.map (Path.absolute s.cwd)).getD s.cwd) modules
          root := root.map (Path.absolute s.cwd) }

/-- Neither the settings nor the manifest have a fault that is not passed over. -/
def Sound (root : Option Text) : Prop :=
  (settingsDocument tree cwd s a root).fault? = none ∧
    (manifestDocument tree cwd s a root).fault? = none

/-- What makes a run fail. -/
inductive Slips : Failure → Prop
  | input {container : Json.Container} (deep : InputTooDeep tree cwd s a container) :
      Slips (.content (.tooDeep container))
  | root {modules : List (Text × Json)} {written : Json}
      (input : InputHolds tree cwd s a modules written) (offLine : given a.root = none)
      (isGiven : written.isGiven = true) (notText : ∀ text, written ≠ .str text) :
      Slips (.rootNotText written.typeName)
  | settings {loaded : Loaded} {e : ContentError} (loads : Loads tree cwd s a loaded)
      (fault : (settingsDocument tree cwd s a loaded.root).fault? = some e) : Slips (.content e)
  | manifest {loaded : Loaded} {e : ContentError} (loads : Loads tree cwd s a loaded)
      (passed : (settingsDocument tree cwd s a loaded.root).fault? = none)
      (fault : (manifestDocument tree cwd s a loaded.root).fault? = some e) : Slips (.content e)
  | analysis {loaded : Loaded} {error : AnalysisError} (loads : Loads tree cwd s a loaded)
      (sound : Sound tree cwd s a loaded.root)
      (fails : (projectOf tree cwd s a loaded.root).FailsBy loaded.facts error) :
      Slips (.analysis error)

/-- The report of a run that neither stops nor fails. -/
inductive Reports : AnalysisReport → Prop
  | intro {loaded : Loaded} {r : AnalysisReport} (loads : Loads tree cwd s a loaded)
      (sound : Sound tree cwd s a loaded.root)
      (analyzed : (projectOf tree cwd s a loaded.root).analyze loaded.facts = .ok r) : Reports r

/-! ## Where a run ends -/

theorem document_firstFound (l : Limits) (look : Text → FileLook) (paths : List Text) :
    (Id.run (firstFound (m := Id) l look paths)).2 =
      ((paths.map fun path => Document.ofLook l (look path)).find? Document.isThere).getD
        .missing := by
  induction paths with
  | nil => rfl
  | cons path rest ih =>
    rw [List.map_cons, List.find?_cons]
    change (Id.run (do
      match Document.ofLook l (look path) with
      | .missing => firstFound (m := Id) l look rest
      | document => return (path, document))).2 = _
    cases Document.ofLook l (look path) with
    | missing => exact ih
    | _ => rfl

theorem ofLook_run (path : Text) :
    Document.ofLook s.limits (Id.run (tree.look cwd path)) = documentAt tree cwd s path :=
  rfl

/-- How a run in a file tree ends, before its report is saved. -/
def endingIn (wording : Wording) : Ending :=
  (Id.run (run (m := Id) (fun path => tree.look cwd path) wording s a)).ending

/-- How it ends once its input has been read. -/
def endingLoaded (wording : Wording) (loaded : Loaded) : Ending :=
  (Id.run (runLoaded (m := Id) (fun path => tree.look cwd path) wording s a
    (a.input.getD s.input) loaded)).ending

/-- A run with a module map ends by the first of its documents that has a fault, else by
the analysis. -/
theorem endingLoaded_eq (wording : Wording) (loaded : Loaded) :
    endingLoaded tree cwd s a wording loaded =
      match (settingsDocument tree cwd s a loaded.root).fault? with
      | some e => .fail (.content e)
      | none =>
        match (manifestDocument tree cwd s a loaded.root).fault? with
        | some e => .fail (.content e)
        | none =>
          (analyze s a (a.input.getD s.input) (projectOf tree cwd s a loaded.root)
            loaded.facts).ending := by
  have found := document_firstFound s.limits (tree.look cwd) (settingsPaths s a loaded.root)
  rw [endingLoaded, runLoaded, Id.run_bind]
  generalize Id.run (firstFound (m := Id) s.limits (fun path => tree.look cwd path)
    (settingsPaths s a loaded.root)) = first at found ⊢
  obtain ⟨path, document⟩ := first
  have sought : document = settingsDocument tree cwd s a loaded.root := found
  subst sought
  have settings := settingsFrom_eq wording path (settingsDocument tree cwd s a loaded.root)
  have manifest := manifestFrom_eq wording (manifestPath s a loaded.root)
    (manifestDocument tree cwd s a loaded.root)
  dsimp only
  generalize settingsFrom wording path _ = result at settings ⊢
  obtain ⟨settingsLines, read⟩ := result
  cases settingsFault : (settingsDocument tree cwd s a loaded.root).fault? with
  | some e =>
    rw [settingsFault] at settings
    obtain rfl : read = _ := settings
    rfl
  | none =>
    rw [settingsFault] at settings
    obtain rfl : read = _ := settings
    dsimp only
    rw [Id.run_bind, ofLook_run, ← manifestDocument]
    generalize manifestFrom wording _ _ = result at manifest ⊢
    obtain ⟨manifestLines, read⟩ := result
    cases manifestFault : (manifestDocument tree cwd s a loaded.root).fault? with
    | some e =>
      rw [manifestFault] at manifest
      obtain rfl : read = _ := manifest
      rfl
    | none =>
      rw [manifestFault] at manifest
      obtain rfl : read = _ := manifest
      rfl

/-- A run ends by its input: unless that is nested too deep, it stops without JSON that is a
module map. -/
theorem endingIn_eq (wording : Wording) :
    endingIn tree cwd s a wording =
      match documentAt tree cwd s (a.input.getD s.input) with
      | .faulty (.tooDeep container) => .fail (.content (.tooDeep container))
      | .value json =>
        match mapOf json with
        | some (modules, written) =>
          match load s a.root modules written with
          | .error failure => .fail failure
          | .ok loaded => endingLoaded tree cwd s a wording loaded
        | none => .exit 1
      | _ => .exit 1 := by
  rw [endingIn, run, Id.run_bind, ofLook_run]
  cases documentAt tree cwd s (a.input.getD s.input) with
  | faulty e => cases e <;> rfl
  | value json =>
    dsimp only
    cases mapOf json with
    | none => rfl
    | some map =>
      dsimp only
      cases load s a.root map.1 map.2 <;> rfl
  | _ => rfl

def Stops : Prop :=
  (∀ modules written, ¬ InputHolds tree cwd s a modules written) ∧
    ∀ container, ¬ InputTooDeep tree cwd s a container

theorem endingIn_of_stops (wording : Wording) (stops : Stops tree cwd s a) :
    endingIn tree cwd s a wording = .exit 1 := by
  obtain ⟨none, flat⟩ := stops
  rw [endingIn_eq]
  split
  · rename_i container read
    exact absurd read (flat container)
  · rename_i json read
    split
    · rename_i modules written found
      exact absurd ⟨json, read, found⟩ (none modules written)
    · rfl
  · rfl

theorem endingIn_of_inputHolds (wording : Wording) {modules : List (Text × Json)}
    {written : Json} (input : InputHolds tree cwd s a modules written) :
    endingIn tree cwd s a wording =
      match load s a.root modules written with
      | .error failure => .fail failure
      | .ok loaded => endingLoaded tree cwd s a wording loaded := by
  obtain ⟨json, read, found⟩ := input
  rw [endingIn_eq, read]
  dsimp only
  rw [found]

theorem load_of_rootOf {line : Option Text} {written : Json} {root : Option Text}
    (chosen : RootOf line written root) (modules : List (Text × Json)) :
    load s line modules written = .ok
      { facts := factsFrom ((root.map (Path.absolute s.cwd)).getD s.cwd) modules
        root := root.map (Path.absolute s.cwd) } := by
  cases chosen with
  | line onLine => simp [load, onLine]
  | document offLine text nonempty => simp [load, offLine, text, Json.isGiven, nonempty]
  | none offLine vain => simp [load, offLine, vain]

theorem load_of_not_text {line : Option Text} {written : Json} (offLine : given line = none)
    (isGiven : written.isGiven = true) (notText : ∀ text, written ≠ .str text)
    (modules : List (Text × Json)) :
    load s line modules written = .error (.rootNotText written.typeName) := by
  cases written with
  | str text => exact absurd rfl (notText text)
  | _ => simp [load, offLine, isGiven]

/-- There is a root to go by, or none, unless a root is written that is no text. -/
theorem exists_rootOf (line : Option Text) (written : Json) :
    (∃ root, RootOf line written root) ∨
      given line = none ∧ written.isGiven = true ∧ ∀ text, written ≠ .str text := by
  cases onLine : given line with
  | some root => exact .inl ⟨_, .line onLine⟩
  | none =>
    cases isGiven : written.isGiven with
    | false => exact .inl ⟨_, .none onLine isGiven⟩
    | true =>
      by_cases text : ∃ root, written = .str root
      · obtain ⟨root, rfl⟩ := text
        exact .inl ⟨_, .document onLine rfl (by rintro rfl; cases isGiven)⟩
      · exact .inr ⟨rfl, rfl, fun root same => text ⟨root, same⟩⟩

variable {tree cwd s a}

theorem endingIn_of_loads (wording : Wording) {loaded : Loaded}
    (loads : Loads tree cwd s a loaded) :
    endingIn tree cwd s a wording = endingLoaded tree cwd s a wording loaded := by
  obtain ⟨input, chosen⟩ := loads
  rw [endingIn_of_inputHolds tree cwd s a wording input, load_of_rootOf s chosen]

theorem endingIn_of_slips (wording : Wording) {failure : Failure}
    (slips : Slips tree cwd s a failure) : endingIn tree cwd s a wording = .fail failure := by
  cases slips with
  | input deep =>
    rw [endingIn_eq, deep]
  | root input offLine isGiven notText =>
    rw [endingIn_of_inputHolds tree cwd s a wording input,
      load_of_not_text s offLine isGiven notText]
  | settings loads fault =>
    rw [endingIn_of_loads wording loads, endingLoaded_eq, fault]
  | manifest loads passed fault =>
    rw [endingIn_of_loads wording loads, endingLoaded_eq, passed, fault]
  | analysis loads sound fails =>
    rw [endingIn_of_loads wording loads, endingLoaded_eq, sound.1, sound.2]
    dsimp only
    rw [analyze, Project.analyze_eq_error_iff.2 fails]

theorem runIn_of_slips (wording : Wording) {failure : Failure}
    (slips : Slips tree cwd s a failure) :
    (runIn tree cwd wording s a).result = .error failure ∧
      (runIn tree cwd wording s a).tree = tree := by
  have ending := endingIn_of_slips wording slips
  rw [endingIn] at ending
  simp only [runIn, ending, and_self]

/-- An input that opens more lists than can be read ends the run with a failure, whatever
follows. -/
theorem runIn_of_brackets (wording : Wording) {depth : Nat} (deep : s.limits.reading < depth)
    {rest : List Char}
    (content : tree.look cwd (a.input.getD s.input) =
      .file (String.ofList (List.replicate depth '[' ++ rest)).toUTF8) :
    (runIn tree cwd wording s a).result = .error (.content (.tooDeep .array)) := by
  have read : InputTooDeep tree cwd s a .array := by
    rw [InputTooDeep, documentAt, content, Document.ofLook_of_brackets s.limits deep]
  exact (runIn_of_slips wording (.input read)).1

theorem endingIn_of_reports (wording : Wording) {r : AnalysisReport}
    (reports : Reports tree cwd s a r) :
    ∃ journal, endingIn tree cwd s a wording =
      .save (a.output.getD s.output) (saved s.time r) journal := by
  obtain ⟨loads, sound, analyzed⟩ := reports
  rw [endingIn_of_loads wording loads, endingLoaded_eq, sound.1, sound.2]
  dsimp only
  rw [analyze, analyzed]
  exact ⟨_, rfl⟩

variable (tree cwd s a)

/-- Every run stops, slips or reports. -/
theorem stops_or_slips_or_reports :
    Stops tree cwd s a ∨ (∃ failure, Slips tree cwd s a failure) ∨
      ∃ r, Reports tree cwd s a r := by
  by_cases holds : ∃ modules written, InputHolds tree cwd s a modules written
  · obtain ⟨modules, written, input⟩ := holds
    right
    obtain ⟨root, chosen⟩ | ⟨offLine, isGiven, notText⟩ := exists_rootOf a.root written
    · have loads : Loads tree cwd s a _ := .intro input chosen
      generalize Loaded.mk _ _ = loaded at loads
      cases settings : (settingsDocument tree cwd s a loaded.root).fault? with
      | some e => exact .inl ⟨_, .settings loads settings⟩
      | none =>
        cases manifest : (manifestDocument tree cwd s a loaded.root).fault? with
        | some e => exact .inl ⟨_, .manifest loads settings manifest⟩
        | none =>
          cases analyzed : (projectOf tree cwd s a loaded.root).analyze loaded.facts with
          | ok r => exact .inr ⟨r, .intro loads ⟨settings, manifest⟩ analyzed⟩
          | error e =>
            have fails := Project.analyze_eq_error_iff.1 analyzed
            exact .inl ⟨_, .analysis loads ⟨settings, manifest⟩ fails⟩
    · exact .inl ⟨_, .root input offLine isGiven notText⟩
  · by_cases deep : ∃ container, InputTooDeep tree cwd s a container
    · obtain ⟨container, deep⟩ := deep
      exact .inr (.inl ⟨_, .input deep⟩)
    · exact .inl ⟨fun modules written input => holds ⟨modules, written, input⟩,
        fun container read => deep ⟨container, read⟩⟩

end Files

/-- A run whose output can be written returns 1 and writes nothing, returns 0 and writes
its report, or fails and writes nothing. It returns 1 exactly when its input is not nested
too deep and holds no module map. It fails exactly for an input that is nested too deep,
for a root that is no text, for settings or a manifest that are no text, hold too long an
integer or are nested too deep, and for an analysis that fails in one of its stages. The
settings are the defaults unless their file holds a JSON value, and the manifest counts
only as a JSON object. -/
theorem runIn_ends_by_contents (tree : FileTree) (cwd : Place) (wording : Wording)
    (s : Surroundings) (a : Arguments)
    (writable : ∀ bytes, ∃ tree', tree.write cwd (a.output.getD s.output) bytes = .ok tree') :
    let after := runIn tree cwd wording s a
    (after.result = .ok 1 ↔ Stops tree cwd s a) ∧
      (∀ failure, after.result = .error failure ↔ Slips tree cwd s a failure) ∧
      (after.result = .ok 0 ↔ ∃ r, Reports tree cwd s a r) ∧
      (∀ code, after.result = .ok code → code = 0 ∨ code = 1) ∧
      (after.result ≠ .ok 0 → after.tree = tree) ∧
      ∀ r, Reports tree cwd s a r →
        after.tree.look cwd (a.output.getD s.output) = .file (saved s.time r).render.toUTF8 := by
  intro after
  have stopped (stops : Stops tree cwd s a) : after.result = .ok 1 ∧ after.tree = tree := by
    have ending := endingIn_of_stops tree cwd s a wording stops
    rw [endingIn] at ending
    simp only [after, runIn, ending, and_self]
  have failed {failure : Failure} (slips : Slips tree cwd s a failure) :
      after.result = .error failure ∧ after.tree = tree :=
    runIn_of_slips wording slips
  have reported {r : AnalysisReport} (reports : Reports tree cwd s a r) :
      after.result = .ok 0 ∧
        after.tree.look cwd (a.output.getD s.output) = .file (saved s.time r).render.toUTF8 := by
    obtain ⟨journal, ending⟩ := endingIn_of_reports wording reports
    obtain ⟨tree', written⟩ := writable (saved s.time r).render.toUTF8
    rw [endingIn] at ending
    simp only [after, runIn, ending, written, true_and]
    exact FileTree.look_of_write written
  -- The three ways to end have different results, so each result tells its way.
  have ways := stops_or_slips_or_reports tree cwd s a
  refine ⟨⟨fun result => ?_, fun stops => (stopped stops).1⟩,
    fun failure => ⟨fun result => ?_, fun slips => (failed slips).1⟩,
    ⟨fun result => ?_, fun ⟨r, reports⟩ => (reported reports).1⟩,
    fun code result => ?_, fun result => ?_, fun r reports => (reported reports).2⟩
  · obtain stops | ⟨failure, slips⟩ | ⟨r, reports⟩ := ways
    · exact stops
    · simp [(failed slips).1] at result
    · simp [(reported reports).1] at result
  · obtain stops | ⟨other, slips⟩ | ⟨r, reports⟩ := ways
    · simp [(stopped stops).1] at result
    · have same : other = failure := Except.error.inj ((failed slips).1.symm.trans result)
      exact same ▸ slips
    · simp [(reported reports).1] at result
  · obtain stops | ⟨failure, slips⟩ | reports := ways
    · simp [(stopped stops).1] at result
    · simp [(failed slips).1] at result
    · exact reports
  · obtain stops | ⟨failure, slips⟩ | ⟨r, reports⟩ := ways
    · exact .inr (Except.ok.inj (result.symm.trans (stopped stops).1))
    · simp [(failed slips).1] at result
    · exact .inl (Except.ok.inj (result.symm.trans (reported reports).1))
  · obtain stops | ⟨failure, slips⟩ | ⟨r, reports⟩ := ways
    · exact (stopped stops).2
    · exact (failed slips).2
    · exact absurd (reported reports).1 result

/-- A working directory with an empty module map and one other file. -/
def workplace (name : Text) (content : ByteArray) : FileTree :=
  let place (name : Text) : Place := [.ofString "w", (FileName.ofText? name).getD []]
  (FileTree.addFile {} (place "module-map.json") "\x7b\x7d".toUTF8).addFile (place name) content

def workplaceSurroundings : Surroundings := { cwd := "/w", time := "2026-01-01T00:00:00+00:00" }

/-- Settings that are text but no JSON are passed over: the report is there. -/
theorem runIn_ends_by_contents_garbled_settings :
    let tree := workplace "modulerc.json" "nope".toUTF8
    let s := workplaceSurroundings
    let after := runIn tree [.ofString "w"] ⟨"no text", "no JSON"⟩ s {}
    after.result = .ok 0 ∧ ∃ r, Reports tree [.ofString "w"] s {} r ∧
      after.tree.look [.ofString "w"] "dependency-analysis.json" =
        .file (saved s.time r).render.toUTF8 := by
  intro tree s after
  have writable (bytes : ByteArray) :
      ∃ tree', tree.write [.ofString "w"] "dependency-analysis.json" bytes = .ok tree' := by
    have located : tree.locateNew [.ofString "w"] "dependency-analysis.json" =
        .ok [.ofString "w", .ofString "dependency-analysis.json"] := by
      decide +kernel
    have absent : (tree.node? [.ofString "w", .ofString "dependency-analysis.json"]).isSome =
        false := by
      decide +kernel
    refine ⟨_, FileTree.write_eq_ok_iff.2 ⟨_, located, fun directory => ?_, rfl⟩⟩
    rw [directory] at absent
    cases absent
  obtain ⟨-, -, finished, -, -, written⟩ :=
    runIn_ends_by_contents tree [.ofString "w"] ⟨"no text", "no JSON"⟩ s {} writable
  have result : after.result = .ok 0 := by decide +kernel
  obtain ⟨r, reports⟩ := finished.1 result
  exact ⟨result, r, reports, written r reports⟩

/-- Settings that are no text are not passed over: the run fails without a report. The
same goes for a manifest. -/
theorem runIn_fails_on_undecodable_file :
    let after (name : Text) : Aftermath := runIn (workplace name ⟨#[0xff]⟩) [.ofString "w"]
      ⟨"no text", "no JSON"⟩ workplaceSurroundings {}
    (after "modulerc.json").result = .error (.content .notText) ∧
      (after "package.json").result = .error (.content .notText) := by
  decide +kernel

end Session

end ModuleAudit
