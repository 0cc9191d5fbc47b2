import Mathlib.Data.List.Flatten
import Mathlib.Data.List.Nodup
import ModuleAudit.Proofs.ExportUsage.Ledger
import ModuleAudit.Proofs.Rearrangement

/-!
# The usage of exports is exact

Every binding into a module with a ledger is accounted for. What a named binding
asks for is an entry of the ledger or not: in the first case it is a consumer of
this entry and of no other, in the second it is a missing export. The entries of
all ledgers have different places, a module and a name, so sorting the bindings by
the places they ask for loses and repeats none.
-/

namespace ModuleAudit.UsageReport

/-- The entries of all ledgers by their places. -/
def places (r : UsageReport) : List (Text × Text) :=
  r.ledgers.entries.flatMap fun m => m.2.keys.map fun name => (m.1, name)

theorem mem_places_iff (r : UsageReport) (module name : Text) :
    (module, name) ∈ r.places ↔
      ∃ ledger, r.ledgers.get? module = some ledger ∧ name ∈ ledger.keys := by
  simp only [places, List.mem_flatMap, List.mem_map, Prod.mk.injEq, Table.mem_entries_iff]
  constructor
  · rintro ⟨m, read, _, member, rfl, rfl⟩
    exact ⟨m.2, read, member⟩
  · rintro ⟨ledger, read, member⟩
    exact ⟨(module, ledger), read, name, member, rfl, rfl⟩

/-- No two entries have the same place. -/
theorem nodup_places (r : UsageReport) : r.places.Nodup := by
  refine List.nodup_flatMap.2 ⟨fun m _ => ?_, ?_⟩
  · exact m.2.keys_nodup.map fun a b same => (Prod.mk.inj same).2
  · refine (List.pairwise_map.1 r.ledgers.nodup_keys).imp fun {m m'} different => ?_
    refine List.disjoint_left.2 fun place here there => ?_
    obtain ⟨name, -, rfl⟩ := List.mem_map.1 here
    obtain ⟨name', -, same⟩ := List.mem_map.1 there
    exact different (Prod.mk.inj same).1.symm

/-- Unused exports are listed by their places, in the order of the entries. -/
theorem map_place_unused_sublist (r : UsageReport) :
    (r.unused.map fun f => (f.module, f.name)).Sublist r.places := by
  rw [unused, places, List.map_flatMap]
  refine List.Sublist.flatMap_right _ fun m _ => ?_
  have picked : ((m.2.entries.filterMap fun e => if e.2.isUsed then none else
      some ({ module := m.1, name := e.1, line := e.2.decl.line } : UnusedExport)).map
        fun f => (f.module, f.name)) =
          (m.2.entries.filter fun e => !e.2.isUsed).map fun e => (m.1, e.1) := by
    rw [List.map_filterMap, ← List.filterMap_eq_map, List.filterMap_filter]
    refine List.filterMap_congr fun e _ => ?_
    by_cases used : e.2.isUsed = true <;> simp [used]
  rw [picked, Table.keys, List.map_map]
  exact List.filter_sublist.map _

/-- An unused export is an entry without consumers. -/
theorem mem_unused_iff (r : UsageReport) (f : UnusedExport) :
    f ∈ r.unused ↔ ∃ ledger entry, r.ledgers.get? f.module = some ledger ∧
      ledger.get? f.name = some entry ∧ entry.decl.line = f.line ∧ entry.consumers = [] := by
  simp only [unused, List.mem_flatMap, List.mem_filterMap, Table.mem_entries_iff]
  constructor
  · rintro ⟨m, hm, e, he, listed⟩
    by_cases used : e.2.isUsed = true
    · simp [used] at listed
    · obtain rfl : _ = f := by simpa [used] using listed
      exact ⟨m.2, e.2, hm, he, rfl, by simpa [LedgerEntry.isUsed] using used⟩
  · rintro ⟨ledger, entry, hledger, hentry, line, unused⟩
    refine ⟨(f.module, ledger), hledger, (f.name, entry), hentry, ?_⟩
    simp [LedgerEntry.isUsed, unused, line]

/-! ## Named bindings -/

/-- What a named binding asks for: a place, for the consumer that it is. -/
def request (u : BindingUse) : (Text × Text) × Consumer :=
  ((u.import_.target, u.binding.requestedName), u.consumer)

/-- The named bindings into modules with a ledger. -/
def requests (nodes : NodeMap) (r : UsageReport) : List BindingUse :=
  (bindingUses nodes).filter fun u =>
    u.binding.kind = .named && r.ledgers.contains u.import_.target

/-- The named consumers of all entries, each with the place of its entry. -/
def answered (r : UsageReport) : List ((Text × Text) × Consumer) :=
  r.ledgers.entries.flatMap fun m => m.2.entries.flatMap fun e =>
    (e.2.consumers.filter fun c => c.kind = .named).map fun c => ((m.1, e.1), c)

/-- What was asked for in vain. -/
def unanswered (f : MissingExport) : (Text × Text) × Consumer :=
  ((f.target, f.name), { module := f.importer, line := f.line, kind := .named })

/-- A named binding asks in vain exactly when there is no entry at its place. -/
theorem lacks_iff (r : UsageReport) (u : BindingUse) :
    r.lacks u = true ↔
      (u.binding.kind = .named ∧ r.ledgers.contains u.import_.target = true) ∧
        (request u).1 ∉ r.places := by
  rw [request, mem_places_iff, Table.contains_iff, ← Table.isSome_get?, lacks]
  cases r.ledgers.get? u.import_.target with
  | none => simp
  | some ledger => simp [← Bool.not_eq_true, Table.contains_iff]

/-- A pass over bindings does not change what asks in vain. -/
theorem lacks_ofNodes (nodes : NodeMap) : (ofNodes nodes).lacks = (start nodes).lacks := by
  have kept (uses : List BindingUse) (r : UsageReport) : (uses.foldl enter r).lacks = r.lacks := by
    induction uses generalizing r with
    | nil => rfl
    | cons u uses ih => rw [List.foldl_cons, ih, funext (r.lacks_enter u)]
  exact kept _ _

/-- Among the bindings, the named consumers of an entry are those that ask for its
place. -/
theorem isNamed_and_reaches_iff (u : BindingUse) (module name : Text) :
    u.consumer.kind = .named ∧ u.reaches module name = true ↔
      (request u).1 = (module, name) ∧ u.binding.kind = .named := by
  cases kind : u.binding.kind with
  | named =>
    simp [BindingUse.consumer, BindingUse.reaches, Binding.uses, request, kind,
      eq_comm (a := name)]
  | whole => simp [BindingUse.consumer, kind]
  | default => simp [BindingUse.consumer, kind]

theorem filter_consumersOf (nodes : NodeMap) (module name : Text) :
    ((consumersOf nodes module name).filter fun c => c.kind = .named).map
        (fun c => ((module, name), c)) =
      (((bindingUses nodes).filter fun u => u.binding.kind = .named).filter fun u =>
        (request u).1 = (module, name)).map request := by
  rw [consumersOf_eq, List.filter_map, List.map_map, List.filter_filter, List.filter_filter]
  have selected : ((bindingUses nodes).filter fun u =>
      decide (u.consumer.kind = .named) && u.reaches module name) =
        (bindingUses nodes).filter fun u =>
          decide ((request u).1 = (module, name)) && decide (u.binding.kind = .named) := by
    refine List.filter_congr fun u _ => ?_
    rw [Bool.eq_iff_iff, Bool.and_eq_true, Bool.and_eq_true, decide_eq_true_eq, decide_eq_true_eq,
      decide_eq_true_eq]
    exact isNamed_and_reaches_iff u module name
  refine (congrArg (List.map _) selected).trans (List.map_congr_left fun u hu => ?_)
  have place : (request u).1 = (module, name) := by
    have chosen := (List.mem_filter.1 hu).2
    rw [Bool.and_eq_true, decide_eq_true_eq] at chosen
    exact chosen.1
  exact Prod.ext place.symm rfl

/-- The consumers of the entry at a place that are named are those that ask for it. -/
theorem answered_ofNodes (nodes : NodeMap) :
    (ofNodes nodes).answered = ((ofNodes nodes).places.flatMap fun place =>
      ((bindingUses nodes).filter fun u => u.binding.kind = .named).filter fun u =>
        (request u).1 = place).map request := by
  rw [answered, places, List.flatMap_assoc, List.map_flatMap]
  refine List.flatMap_congr fun m hm => ?_
  rw [List.flatMap_map, List.map_flatMap, Table.keys, List.flatMap_map]
  refine List.flatMap_congr fun e he => ?_
  rw [consumers_of_get? (Table.get?_of_mem_entries hm) (Table.get?_of_mem_entries he)]
  exact filter_consumersOf nodes m.1 e.1

/-- What asks in vain is reported with what it asks for. -/
theorem map_unanswered_missing (nodes : NodeMap) :
    (ofNodes nodes).missing.map unanswered =
      ((bindingUses nodes).filter (ofNodes nodes).lacks).map request := by
  have reported : (ofNodes nodes).missing =
      ((bindingUses nodes).filter (ofNodes nodes).lacks).map BindingUse.missing := by
    rw [lacks_ofNodes, ofNodes, foldl_enter]
    rfl
  rw [reported, List.map_map]
  refine List.map_congr_left fun u hu => ?_
  have named := ((lacks_iff _ u).1 (List.mem_filter.1 hu).2).1.1
  simp [unanswered, request, BindingUse.missing, BindingUse.consumer, named]

/-- Each named binding into a module with a ledger is a consumer of one entry or a
missing export, and counted once. -/
theorem requests_perm (nodes : NodeMap) :
    ((requests nodes (ofNodes nodes)).map request).Perm
      ((ofNodes nodes).answered ++ (ofNodes nodes).missing.map unanswered) := by
  let r := ofNodes nodes
  let there (u : BindingUse) : Bool := (request u).1 ∈ r.places
  have found : r.answered.Perm (((requests nodes r).filter there).map request) := by
    have kept : (requests nodes r).filter there =
        ((bindingUses nodes).filter fun u => u.binding.kind = .named).filter there := by
      rw [requests, List.filter_filter, List.filter_filter]
      refine List.filter_congr fun u _ => ?_
      by_cases place : (request u).1 ∈ r.places
      · obtain ⟨ledger, read, -⟩ := (mem_places_iff r _ _).1 place
        have known : r.ledgers.contains u.import_.target = true :=
          (Table.contains_iff _ _).2 ((Table.isSome_get? _ _).1 (Option.isSome_of_mem read))
        simp [there, known]
      · simp [there, place]
    rw [answered_ofNodes, kept]
    exact (flatMap_filter_key_perm r.nodup_places fun u => decide_eq_true_iff).map request
  have lost : r.missing.map unanswered =
      ((requests nodes r).filter fun u => !there u).map request := by
    rw [map_unanswered_missing, requests, List.filter_filter]
    refine congrArg (List.map request) (List.filter_congr fun u _ => ?_)
    rw [Bool.eq_iff_iff, lacks_iff]
    simp [there, r, and_comm]
  rw [lost]
  refine (List.Perm.append_right _ found).trans ?_ |>.symm
  rw [← List.map_append]
  exact (List.filter_append_perm there _).map request

/-! ## The report as a whole -/

/-- The usage of exports is exact. The modules that are not data and export
something have a ledger, with one entry for each name they declare, that of the
first declaration. An entry's consumers are the bindings that use it, in order. The
unused exports are the entries that no binding into their module uses, each once;
the missing exports are the named bindings into modules with a ledger that ask for a
name without an entry. So every named binding into such a module is counted once, as
a consumer or as a missing export. -/
theorem ofNodes_exact (nodes : NodeMap) :
    let r := ofNodes nodes
    r.ledgers.keys = (nodes.entries.filter fun e =>
        e.2.exports ≠ [] ∧ e.2.fileType ≠ .data).map Prod.fst ∧
      (∀ module ledger, r.ledgers.get? module = some ledger →
        ∃ node, nodes.get? module = some node ∧
          ledger.keys = ((node.exports.filter fun d => !d.isStar).map ExportDecl.name).eraseDups ∧
          ∀ name entry, ledger.get? name = some entry →
            (node.exports.find? fun d => !d.isStar && d.name = name) = some entry.decl ∧
              entry.consumers = consumersOf nodes module name) ∧
      (∀ f, f ∈ r.unused ↔ ∃ ledger entry, r.ledgers.get? f.module = some ledger ∧
        ledger.get? f.name = some entry ∧ entry.decl.line = f.line ∧
          ∀ e ∈ nodes.entries, ∀ i ∈ e.2.imports, i.target = f.module →
            ∀ b ∈ i.statement.bindings, b.uses f.name = false) ∧
      (r.unused.map fun f => (f.module, f.name)).Nodup ∧
      r.missing = missingOf nodes ∧
      ((requests nodes r).map request).Perm (r.answered ++ r.missing.map unanswered) := by
  intro r
  refine ⟨?_, ?_, ?_, r.nodup_places.sublist r.map_place_unused_sublist, missing_ofNodes nodes,
    requests_perm nodes⟩
  · have followed (e : Text × ModuleNode) :
        e.2.keepsLedger = decide (e.2.exports ≠ [] ∧ e.2.fileType ≠ .data) := by
      rw [Bool.eq_iff_iff]
      simp [ModuleNode.keepsLedger]
    rw [Table.keys, entries_ledgers_ofNodes, List.map_map]
    simp only [followed]
    rfl
  · intro module ledger read
    rw [get?_ledgers_ofNodes] at read
    obtain ⟨node, selected, rfl⟩ := Option.map_eq_some_iff.1 read
    refine ⟨node, (Option.filter_eq_some_iff.1 selected).1, keys_ledgerOf nodes module node, ?_⟩
    intro name entry found
    rw [get?_ledgerOf] at found
    obtain ⟨d, first, rfl⟩ := Option.map_eq_some_iff.1 found
    exact ⟨first, rfl⟩
  · intro f
    rw [mem_unused_iff]
    refine exists₂_congr fun ledger entry => and_congr_right fun hledger =>
      and_congr_right fun hentry => and_congr_right fun _ => ?_
    rw [consumers_of_get? hledger hentry, consumersOf_eq_nil_iff]

/-- A library that declares one name twice, forwards others and uses itself; data;
and a program that uses both, once under a name that is not exported. -/
def barrelNodes : NodeMap :=
  let decl (name : Text) (kind : ExportKind) (line : Int) : ExportDecl :=
    { name, kind, line := some line, source := none }
  let into (target source : Text) (bindings : List Binding) : InternalImport :=
    { statement := { source, line := some 7, bindings, form := "import" }, target }
  .ofList
    [("app.js", { fileType := .code, exports := [], imports :=
        [into "lib.js" "./lib"
          [⟨.named, "x", some "open"⟩, ⟨.whole, "all", none⟩, ⟨.named, "shut", none⟩],
          into "data.json" "./data.json" [⟨.named, "key", none⟩]] }),
      ("lib.js", { fileType := .code
                   imports := [into "lib.js" "./lib" [⟨.named, "open", none⟩]]
                   exports := [decl "open" .named 1, decl "*" .reExport 2, decl "open" .named 3] }),
      ("data.json", { fileType := .data, exports := [decl "key" .named 1] }),
      ("old.js", { fileType := .code, exports := [decl "gone" .named 4] })]

theorem ofNodes_exact_barrel :
    let r := ofNodes barrelNodes
    r.ledgers.keys = [Text.ofString "lib.js", Text.ofString "old.js"] ∧
      (∃ ledger entry, r.ledgers.get? "lib.js" = some ledger ∧ ledger.get? "open" = some entry ∧
        entry.decl.line = some 1 ∧ entry.consumers =
          [⟨"app.js", some 7, .named⟩, ⟨"app.js", some 7, .whole⟩, ⟨"lib.js", some 7, .named⟩]) ∧
      (∃ f ∈ r.unused, f.module = "old.js" ∧ ∀ e ∈ barrelNodes.entries, ∀ i ∈ e.2.imports,
        i.target = f.module → ∀ b ∈ i.statement.bindings, b.uses f.name = false) ∧
      r.missing = [⟨"app.js", "lib.js", "shut", some 7, "./lib"⟩] ∧
      (requests barrelNodes r).length = 3 ∧ r.answered.length + r.missing.length = 3 := by
  intro r
  obtain ⟨keys, entries, unused, -, missing, counted⟩ := ofNodes_exact barrelNodes
  have asked : (requests barrelNodes r).length = 3 := by decide
  refine ⟨keys.trans (by decide), ?_, ?_, missing.trans (by decide), asked, ?_⟩
  · have stored : ((r.ledgers.get? "lib.js").bind fun ledger => ledger.get? "open").isSome := by
      decide
    obtain ⟨entry, found⟩ := Option.isSome_iff_exists.1 stored
    obtain ⟨ledger, read, found⟩ := Option.bind_eq_some_iff.1 found
    obtain ⟨node, hnode, -, first⟩ := entries _ _ read
    obtain ⟨decl, consumers⟩ := first _ _ found
    have line : ((barrelNodes.get? "lib.js").bind fun n => n.exports.find? fun d =>
        !d.isStar && d.name = ("open" : Text)).map ExportDecl.line = some (some 1) := by decide
    rw [hnode, Option.bind_some, decl] at line
    exact ⟨ledger, entry, read, found, Option.some.inj line, consumers.trans (by decide)⟩
  · have listed : (⟨"old.js", "gone", some 4⟩ : UnusedExport) ∈ r.unused := by decide
    obtain ⟨-, -, -, -, -, free⟩ := (unused _).1 listed
    exact ⟨_, listed, rfl, free⟩
  · rw [← asked]
    simpa using counted.length_eq.symm

end ModuleAudit.UsageReport
