import ModuleAudit.Proofs.Table
import ModuleAudit.Resolver

/-!
# Modules by their plain names

The table of plain names is filled one module at a time, and entering a module puts it
after those that share its name. The table therefore lists every known path once, under
the name of its own file.
-/

namespace ModuleAudit.Resolver

/-- The paths of a table of names, each with the name under which it is listed. -/
def listings (entries : List (Text × List Text)) : List (Text × Text) :=
  entries.flatMap fun e => e.2.map fun path => (e.1, path)

theorem listings_assign (name path : Text) (entries : List (Text × List Text)) :
    (listings (Table.assign name ((Table.find name entries).getD [] ++ [path]) entries)).Perm
      (listings entries ++ [(name, path)]) := by
  induction entries with
  | nil => exact .refl _
  | cons e rest ih =>
    by_cases same : e.1 = name
    · simp only [listings, Table.assign, Table.find, same, if_true, Option.getD_some,
        List.flatMap_cons, List.map_append, List.map_cons, List.map_nil, List.append_assoc]
      exact List.perm_append_comm.append_left _
    · simp only [listings, Table.assign, Table.find, same, if_false, List.flatMap_cons,
        List.append_assoc] at ih ⊢
      exact ih.append_left _

theorem listings_enterName (index : Table Text (List Text)) (path : Text) :
    (listings (enterName index path).entries).Perm
      (listings index.entries ++ [(plainName (Path.base path), path)]) :=
  listings_assign _ path index.entries

theorem listings_foldl_enterName (paths : List Text) (index : Table Text (List Text)) :
    (listings (paths.foldl enterName index).entries).Perm
      (listings index.entries ++ paths.map fun path => (plainName (Path.base path), path)) := by
  induction paths generalizing index with
  | nil => simp
  | cons path paths ih =>
    rw [List.foldl_cons, List.map_cons, List.append_cons]
    exact (ih _).trans ((listings_enterName index path).append_right _)

/-- The table of plain names lists every known path once, under the name of its file. -/
theorem listings_byPlainName (r : Resolver) :
    (listings r.byPlainName.entries).Perm
      (r.paths.map fun path => (plainName (Path.base path), path)) :=
  (listings_foldl_enterName (Text.sort r.paths) .empty).trans
    ((List.mergeSort_perm r.paths _).map _)

end ModuleAudit.Resolver
