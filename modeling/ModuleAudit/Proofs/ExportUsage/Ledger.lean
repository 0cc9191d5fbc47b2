import Mathlib.Data.List.Basic
import Mathlib.Data.List.Induction
import ModuleAudit.ExportUsage
import ModuleAudit.Proofs.Table

/-!
# Ledgers in closed form

Entering a binding adds one consumer to the entries it uses and touches nothing
else: no ledger is opened or closed on the way, and no entry comes or goes. One
pass over the bindings is therefore a selection of the bindings for each entry,
in their order, and the bindings that ask in vain can be told from the ledgers as
they were before the pass.
-/

namespace ModuleAudit

/-- Whether a binding uses the export of its target with a name. A namespace uses
each, a named binding the one it asks for, a default import the export `default`. -/
def Binding.uses (b : Binding) (name : Text) : Bool :=
  match b.kind with
  | .named => name = b.requestedName
  | .whole => true
  | .default => name = "default"

/-- Whether the exports of a module are followed. -/
def ModuleNode.keepsLedger (n : ModuleNode) : Bool := !n.exports.isEmpty && n.fileType ≠ .data

namespace Ledger

def declaredNames (exports : List ExportDecl) : List Text :=
  (exports.filter fun d => !d.isStar).map ExportDecl.name

def declarationOf (exports : List ExportDecl) (name : Text) : Option ExportDecl :=
  exports.find? fun d => !d.isStar && d.name = name

theorem mem_declaredNames_iff {exports : List ExportDecl} {name : Text} :
    name ∈ declaredNames exports ↔ ∃ d ∈ exports, d.isStar = false ∧ d.name = name := by
  simp [declaredNames, and_assoc]

/-- The entry of one more export is made unless it is there or declares nothing. -/
theorem ofExports_concat (exports : List ExportDecl) (d : ExportDecl) :
    ofExports (exports ++ [d]) =
      if d.isStar || (ofExports exports).contains d.name then ofExports exports
      else (ofExports exports).insert d.name { decl := d, consumers := [] } := by
  rw [ofExports, List.foldl_append]
  rfl

/-- A ledger has one entry for each declared name. -/
theorem keys_ofExports (exports : List ExportDecl) :
    (ofExports exports).keys = (declaredNames exports).eraseDups := by
  induction exports using List.reverseRecOn with
  | nil => rfl
  | append_singleton exports d ih =>
    have known : (ofExports exports).contains d.name = true ↔ d.name ∈ declaredNames exports := by
      rw [Table.contains_iff, ih, List.mem_eraseDups]
    rw [ofExports_concat]
    by_cases star : d.isStar = true
    · rw [star, Bool.true_or, if_pos rfl, ih]
      simp [declaredNames, star]
    · have names : declaredNames (exports ++ [d]) = declaredNames exports ++ [d.name] := by
        simp [declaredNames, star]
      rw [Bool.not_eq_true] at star
      rw [names, List.eraseDups_append, star, Bool.false_or, ← ih]
      by_cases member : d.name ∈ declaredNames exports
      · rw [if_pos (known.2 member)]
        simp [List.removeAll, member]
      · rw [if_neg fun h => member (known.1 h), Table.keys_insert, if_neg]
        · simp [List.removeAll, member, List.eraseDups_cons]
        · rwa [ih, List.mem_eraseDups]

/-- An entry is that of the first export with its name, and has no consumer yet. -/
theorem get?_ofExports (exports : List ExportDecl) (name : Text) :
    (ofExports exports).get? name =
      (declarationOf exports name).map fun d => { decl := d, consumers := [] } := by
  induction exports using List.reverseRecOn with
  | nil => rfl
  | append_singleton exports d ih =>
    have known : (ofExports exports).contains d.name = true ↔
        (declarationOf exports d.name).isSome = true := by
      rw [Table.contains_iff, keys_ofExports, List.mem_eraseDups, mem_declaredNames_iff]
      simp [declarationOf]
    rw [ofExports_concat, declarationOf, List.find?_append]
    by_cases star : d.isStar = true
    · simp [star, ih, declarationOf]
    · rw [Bool.not_eq_true] at star
      rw [star, Bool.false_or]
      by_cases same : d.name = name
      · subst same
        by_cases member : (declarationOf exports d.name).isSome = true
        · obtain ⟨first, hfirst⟩ := Option.isSome_iff_exists.1 member
          rw [if_pos (known.2 member), ih, hfirst]
          rw [declarationOf] at hfirst
          simp [hfirst]
        · rw [if_neg fun h => member (known.1 h), Table.get?_insert, if_pos rfl]
          rw [Option.not_isSome_iff_eq_none, declarationOf] at member
          simp [member, star]
      · have kept : ((if (ofExports exports).contains d.name = true then ofExports exports
            else (ofExports exports).insert d.name { decl := d, consumers := [] }).get? name) =
            (ofExports exports).get? name := by
          split
          · rfl
          · rw [Table.get?_insert, if_neg same]
        rw [kept, ih]
        simp [declarationOf, same]

end Ledger

/-! ## One binding -/

namespace BindingUse

/-- Whether a binding uses an export of a module. -/
def reaches (u : BindingUse) (module name : Text) : Bool :=
  u.import_.target = module && u.binding.uses name

end BindingUse

namespace UsageReport

/-- Whether a binding asks for a name that the ledger of its target does not have. -/
def lacks (r : UsageReport) (u : BindingUse) : Bool :=
  u.binding.kind = .named &&
    (r.ledgers.get? u.import_.target).any fun ledger => !ledger.contains u.binding.requestedName

/-- The ledgers with a binding entered into each entry that it uses. -/
def entered (ledgers : Table Text Ledger) (u : BindingUse) : Table Text Ledger :=
  ledgers.map fun module ledger => ledger.map fun name e =>
    if u.reaches module name then e.addConsumer u.consumer else e

/-- A binding into a module without a ledger is passed over. -/
theorem entered_of_get?_eq_none {ledgers : Table Text Ledger} {u : BindingUse}
    (absent : ledgers.get? u.import_.target = none) : entered ledgers u = ledgers := by
  refine Table.map_eq_self fun m hm => Table.map_eq_self fun e _ => if_neg fun reached => ?_
  have target : u.import_.target = m.1 := by
    rw [BindingUse.reaches, Bool.and_eq_true, decide_eq_true_eq] at reached
    exact reached.1
  rw [target, Table.get?_of_mem_entries hm] at absent
  cases absent

/-- A binding changes the ledger of its target only. -/
theorem entered_of_get? {ledgers : Table Text Ledger} {u : BindingUse} {ledger : Ledger}
    (found : ledgers.get? u.import_.target = some ledger) :
    entered ledgers u = ledgers.insert u.import_.target
      (ledger.map fun name e =>
        if u.binding.uses name then e.addConsumer u.consumer else e) := by
  have known : u.import_.target ∈ ledgers.keys :=
    (ledgers.isSome_get? _).1 (Option.isSome_of_mem found)
  rw [Table.insert_of_mem_keys known]
  refine Table.map_congr fun m hm => ?_
  by_cases target : m.1 = u.import_.target
  · have same : m.2 = ledger := by
      rw [← target, Table.get?_of_mem_entries hm] at found
      exact Option.some.inj found
    simp [target, same, BindingUse.reaches]
  · rw [if_neg target]
    refine Table.map_eq_self fun e _ => if_neg ?_
    simp [BindingUse.reaches, Ne.symm target]

/-- One step enters the binding, and reports it if it asks in vain. -/
theorem enter_eq (r : UsageReport) (u : BindingUse) :
    r.enter u =
      { ledgers := entered r.ledgers u
        missing := r.missing ++ if r.lacks u then [u.missing] else [] } := by
  unfold enter lacks
  cases found : r.ledgers.get? u.import_.target with
  | none => simp [entered_of_get?_eq_none found]
  | some ledger =>
    rw [entered_of_get? found]
    cases kind : u.binding.kind with
    | whole => simp [Binding.uses, kind]
    | default => simp [Binding.uses, kind, Table.modify]
    | named =>
      by_cases member : ledger.contains u.binding.requestedName = true
      · simp [Binding.uses, kind, member, Table.modify]
      · have unchanged : (ledger.map fun name e =>
            if u.binding.uses name then e.addConsumer u.consumer else e) = ledger := by
          refine Table.map_eq_self fun e he => if_neg fun used => member ?_
          have asked : e.1 = u.binding.requestedName := by simpa [Binding.uses, kind] using used
          rw [Table.contains_iff, ← asked]
          exact List.mem_map_of_mem he
        have known : u.import_.target ∈ r.ledgers.keys :=
          (r.ledgers.isSome_get? _).1 (Option.isSome_of_mem found)
        have rewritten : r.ledgers.insert u.import_.target ledger = r.ledgers := by
          rw [Table.insert_of_mem_keys known]
          refine Table.map_eq_self fun m hm => ?_
          split
          · rename_i target
            rw [← target, Table.get?_of_mem_entries hm] at found
            exact (Option.some.inj found).symm
          · rfl
        simp [unchanged, rewritten, member]

/-- Entering a binding neither makes nor removes an entry. -/
theorem lacks_enter (r : UsageReport) (u v : BindingUse) : (r.enter u).lacks v = r.lacks v := by
  rw [enter_eq]
  simp only [lacks, entered, Table.get?_map, Option.any_map]
  congr 2
  funext ledger
  rw [Bool.eq_iff_iff]
  simp [← Bool.not_eq_true, Table.contains_iff]

/-! ## All bindings -/

/-- Ledgers with the consumers that a list of bindings adds to their entries. -/
def withConsumers (uses : List BindingUse) (ledgers : Table Text Ledger) : Table Text Ledger :=
  ledgers.map fun module ledger => ledger.map fun name e =>
    { e with
      consumers := e.consumers ++
        (uses.filter fun u => u.reaches module name).map BindingUse.consumer }

/-- A pass over bindings adds to each entry those that use it, and reports those
that ask in vain. -/
theorem foldl_enter (uses : List BindingUse) (r : UsageReport) :
    uses.foldl enter r =
      { ledgers := withConsumers uses r.ledgers
        missing := r.missing ++ (uses.filter r.lacks).map BindingUse.missing } := by
  induction uses generalizing r with
  | nil =>
    have unchanged : withConsumers [] r.ledgers = r.ledgers :=
      Table.map_eq_self fun m _ => Table.map_eq_self fun e _ => by simp
    simp [unchanged]
  | cons u uses ih =>
    have later : (r.enter u).lacks = r.lacks := funext (r.lacks_enter u)
    rw [List.foldl_cons, ih, later, enter_eq]
    congr 1
    · simp only [withConsumers, entered, Table.map_map]
      congr 1
      funext module ledger
      congr 1
      funext name e
      by_cases reached : u.reaches module name = true
      · simp [reached, LedgerEntry.addConsumer]
      · simp [reached]
    · by_cases vain : r.lacks u = true
      · simp [vain]
      · simp [vain]

/-! ## The report on a graph -/

/-- The bindings that use an export, as its consumers, in the order of the modules,
of their imports and of what these bind. -/
def consumersOf (nodes : NodeMap) (module name : Text) : List Consumer :=
  nodes.entries.flatMap fun e => e.2.imports.flatMap fun i =>
    (i.statement.bindings.filter fun b => i.target = module && b.uses name).map fun b =>
      { module := e.1, line := i.statement.line, kind := b.kind }

/-- Whether a binding asks for a name that its target declares nowhere. -/
def asksInVain (nodes : NodeMap) (target : Text) (b : Binding) : Bool :=
  b.kind = .named && (nodes.get? target).any fun n =>
    n.keepsLedger && !(Ledger.declaredNames n.exports).contains b.requestedName

/-- The names that are asked for in vain, in the order of the bindings. -/
def missingOf (nodes : NodeMap) : List MissingExport :=
  nodes.entries.flatMap fun e => e.2.imports.flatMap fun i =>
    (i.statement.bindings.filter fun b => asksInVain nodes i.target b).map fun b =>
      { importer := e.1
        target := i.target
        name := b.requestedName
        line := i.statement.line
        specifier := i.statement.source }

/-- The ledger of a module with its consumers in a graph. -/
def ledgerOf (nodes : NodeMap) (module : Text) (n : ModuleNode) : Ledger :=
  (Ledger.ofExports n.exports).map fun name e =>
    { e with consumers := consumersOf nodes module name }

/-- A selection of the bindings, listed module by module and import by import. -/
theorem map_filter_bindingUses {β : Type} (nodes : NodeMap) (p : BindingUse → Bool)
    (f : BindingUse → β) :
    ((bindingUses nodes).filter p).map f = nodes.entries.flatMap fun e =>
      e.2.imports.flatMap fun i =>
        (i.statement.bindings.filter fun b => p ⟨e.1, i, b⟩).map fun b => f ⟨e.1, i, b⟩ := by
  rw [bindingUses, List.filter_flatMap, List.map_flatMap]
  refine List.flatMap_congr fun e _ => ?_
  rw [List.filter_flatMap, List.map_flatMap]
  refine List.flatMap_congr fun i _ => ?_
  rw [List.filter_map, List.map_map]
  rfl

/-- An export has no consumer exactly when no binding into its module uses it. -/
theorem consumersOf_eq_nil_iff (nodes : NodeMap) (module name : Text) :
    consumersOf nodes module name = [] ↔
      ∀ e ∈ nodes.entries, ∀ i ∈ e.2.imports, i.target = module →
        ∀ b ∈ i.statement.bindings, b.uses name = false := by
  simp only [consumersOf, List.flatMap_eq_nil_iff, List.map_eq_nil_iff, List.filter_eq_nil_iff,
    Bool.and_eq_true, decide_eq_true_eq, not_and, Bool.not_eq_true]
  exact forall₄_congr fun _ _ _ _ =>
    ⟨fun h target b hb => h b hb target, fun h b hb target => h target b hb⟩

/-- The consumers of an export are the bindings that use it. -/
theorem consumersOf_eq (nodes : NodeMap) (module name : Text) :
    consumersOf nodes module name =
      ((bindingUses nodes).filter fun u => u.reaches module name).map BindingUse.consumer := by
  rw [map_filter_bindingUses]
  rfl

theorem entries_ledgers_start (nodes : NodeMap) :
    (start nodes).ledgers.entries =
      (nodes.entries.filter fun e => e.2.keepsLedger).map fun e =>
        (e.1, Ledger.ofExports e.2.exports) := by
  have selected : (nodes.entries.filterMap fun e =>
      if e.2.exports.isEmpty || e.2.fileType = .data then none
      else some (e.1, Ledger.ofExports e.2.exports)) =
        (nodes.entries.filter fun e => e.2.keepsLedger).map fun e =>
          (e.1, Ledger.ofExports e.2.exports) := by
    rw [← List.filterMap_eq_map, List.filterMap_filter]
    refine List.filterMap_congr fun e _ => ?_
    cases empty : e.2.exports.isEmpty <;> by_cases data : e.2.fileType = .data <;>
      simp [ModuleNode.keepsLedger, empty, data]
  rw [start, selected]
  refine Table.entries_ofList ?_
  rw [List.map_map]
  exact nodes.nodup_keys.sublist (List.filter_sublist.map _)

/-- The ledgers of a report: one for each module whose exports are followed, with
the consumers of every entry. -/
theorem entries_ledgers_ofNodes (nodes : NodeMap) :
    (ofNodes nodes).ledgers.entries =
      (nodes.entries.filter fun e => e.2.keepsLedger).map fun e =>
        (e.1, ledgerOf nodes e.1 e.2) := by
  rw [ofNodes, foldl_enter, withConsumers, Table.entries_map, entries_ledgers_start, List.map_map]
  refine List.map_congr_left fun e _ => ?_
  simp only [Function.comp_apply, ledgerOf, Prod.mk.injEq, true_and]
  refine Table.map_congr fun x hx => ?_
  have opened : x.2.consumers = [] := by
    have read := Table.get?_of_mem_entries hx
    rw [Ledger.get?_ofExports] at read
    obtain ⟨d, -, entry⟩ := Option.map_eq_some_iff.1 read
    rw [← entry]
  rw [opened, List.nil_append, consumersOf_eq]

/-- The ledger of a module is there exactly when its exports are followed. -/
theorem get?_ledgers_ofNodes (nodes : NodeMap) (module : Text) :
    (ofNodes nodes).ledgers.get? module =
      ((nodes.get? module).filter ModuleNode.keepsLedger).map (ledgerOf nodes module) :=
  Table.get?_of_entries_eq (entries_ledgers_ofNodes nodes) module

@[simp] theorem keys_ledgerOf (nodes : NodeMap) (module : Text) (n : ModuleNode) :
    (ledgerOf nodes module n).keys = (Ledger.declaredNames n.exports).eraseDups := by
  rw [ledgerOf, Table.keys_map, Ledger.keys_ofExports]

theorem get?_ledgerOf (nodes : NodeMap) (module name : Text) (n : ModuleNode) :
    (ledgerOf nodes module n).get? name = (Ledger.declarationOf n.exports name).map fun d =>
      { decl := d, consumers := consumersOf nodes module name } := by
  rw [ledgerOf, Table.get?_map, Ledger.get?_ofExports, Option.map_map]
  rfl

/-- Every entry of a report has the bindings that use it as its consumers. -/
theorem consumers_of_get? {nodes : NodeMap} {module name : Text} {ledger : Ledger}
    {entry : LedgerEntry} (hledger : (ofNodes nodes).ledgers.get? module = some ledger)
    (hentry : ledger.get? name = some entry) :
    entry.consumers = consumersOf nodes module name := by
  rw [get?_ledgers_ofNodes] at hledger
  obtain ⟨n, -, rfl⟩ := Option.map_eq_some_iff.1 hledger
  rw [get?_ledgerOf] at hentry
  obtain ⟨d, -, rfl⟩ := Option.map_eq_some_iff.1 hentry
  rfl

/-- The exports that nothing uses, module by module. -/
theorem unused_ofNodes (nodes : NodeMap) :
    (ofNodes nodes).unused =
      (nodes.entries.filter fun e => e.2.keepsLedger).flatMap fun e =>
        (Ledger.ofExports e.2.exports).entries.filterMap fun x =>
          if (consumersOf nodes e.1 x.1).isEmpty then
            some { module := e.1, name := x.1, line := x.2.decl.line }
          else none := by
  rw [unused, entries_ledgers_ofNodes, List.flatMap_map]
  refine List.flatMap_congr fun e _ => ?_
  rw [ledgerOf, Table.entries_map, List.filterMap_map]
  refine List.filterMap_congr fun x _ => ?_
  by_cases none : consumersOf nodes e.1 x.1 = []
  · simp [LedgerEntry.isUsed, none]
  · simp [LedgerEntry.isUsed, none]

/-- What a ledger lacks before the pass is what no export declares. -/
theorem lacks_start (nodes : NodeMap) (u : BindingUse) :
    (start nodes).lacks u = asksInVain nodes u.import_.target u.binding := by
  have read : (start nodes).ledgers.get? u.import_.target =
      ((nodes.get? u.import_.target).filter ModuleNode.keepsLedger).map fun n =>
        Ledger.ofExports n.exports :=
    Table.get?_of_entries_eq (f := fun _ (n : ModuleNode) => Ledger.ofExports n.exports)
      (entries_ledgers_start nodes) _
  have known (n : ModuleNode) :
      Table.contains (Ledger.ofExports n.exports) u.binding.requestedName =
        (Ledger.declaredNames n.exports).contains u.binding.requestedName := by
    rw [Bool.eq_iff_iff, Table.contains_iff, Ledger.keys_ofExports, List.mem_eraseDups,
      List.contains_iff_mem]
  rw [lacks, asksInVain, read]
  cases nodes.get? u.import_.target with
  | none => rfl
  | some n => cases kept : n.keepsLedger <;> simp [kept, known, Option.filter]

/-- The names asked for in vain are those that no export declares. -/
theorem missing_ofNodes (nodes : NodeMap) : (ofNodes nodes).missing = missingOf nodes := by
  have nothing : (start nodes).missing = [] := rfl
  rw [ofNodes, foldl_enter, nothing, List.nil_append, map_filter_bindingUses]
  simp only [lacks_start]
  rfl

end UsageReport

end ModuleAudit
