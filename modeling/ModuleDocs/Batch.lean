import ModuleDocs.Scan
import ModuleDocs.Source

/-!
# Batch

The documentation of many modules.  Several modules are under way at once and finish in an order
that nothing fixes; the order is given as data.  The report is sorted by path, and a module that
cannot be read is either reported or ends the whole batch, as the policy says.
-/

namespace ModuleDocs

/-- A module without documentation. -/
structure ModuleFailure where
  path : String
  error : String
deriving DecidableEq, Repr

/-- What came of a batch. -/
structure Report where
  modules : List ModuleDoc := []
  failures : List ModuleFailure := []
deriving DecidableEq, Repr

/-- Every module is documented. -/
def Report.isClean (r : Report) : Bool := r.failures.isEmpty

namespace Batch

/-! ### One module -/

/-- The documentation of a module file.  Its comments are sought by path and text. -/
def process (a : Assembler) (comments : String → String → Except Failure (List Comment))
    (fs : Files) (file : ModuleFile) : Except Failure ModuleDoc :=
  match fs.readText file.path with
  | .error fault => .error (.acquisition file.relative fault.message)
  | .ok text =>
    a.document { name := file.relative, path := file.relative } (comments file.relative text)

/-! ### The order in which modules finish -/

/-- The tasks in the order in which they finish.  At most `width` of them, the earliest that have
not finished, are under way; each pick says which of those finishes next, and without a pick it is
the first. -/
def completions {α : Type} (width : Nat) (picks : List Nat) (tasks : List α) : List α :=
  match tasks with
  | [] => []
  | first :: others =>
    let under := min (max 1 width) (others.length + 1)
    let i := picks.headD 0 % under
    ((first :: others)[i]?.getD first) ::
      completions width picks.tail ((first :: others).eraseIdx i)
termination_by tasks.length
decreasing_by
  have : picks.headD 0 % min (max 1 width) (others.length + 1) < others.length + 1 :=
    Nat.lt_of_lt_of_le (Nat.mod_lt _ (by omega)) (by omega)
  simp only [List.length_eraseIdx, List.length_cons]
  split <;> omega

/-- Which of the tasks under way ends next, so often as the first number says.  The tasks under way
end at the given moments; the others wait, and each takes its time from the moment it is begun. -/
def picksFrom (width : Nat) : Nat → Nat → List Nat → List Nat → List Nat
  | 0, _, _, _ => []
  | n + 1, now, ends, waiting =>
    let free := max 1 width - ends.length
    let ends := ends ++ (waiting.take free).map (now + ·)
    let next := ends.min?.getD now
    let i := ends.idxOf next
    i :: picksFrom width n next (ends.eraseIdx i) (waiting.drop free)

/-- The picks that tasks of the given times make. -/
def picksOf (width : Nat) (times : List Nat) : List Nat :=
  picksFrom width times.length 0 [] times

/-! ### Reports -/

/-- A task that has ended. -/
abbrev Ended := ModuleFile × Except Failure ModuleDoc

/-- The documentation of the modules that have some. -/
def documented (ended : List Ended) : List ModuleDoc :=
  ended.filterMap fun (_, result) => result.toOption

/-- The failure of each module that has none. -/
def failed (ended : List Ended) : List ModuleFailure :=
  ended.filterMap fun (file, result) =>
    match result with
    | .ok _ => none
    | .error f => some { path := file.relative, error := f.message }

/-- The first failure. -/
def firstFailure? (ended : List Ended) : Option Failure :=
  ended.findSome? fun (_, result) =>
    match result with
    | .ok _ => none
    | .error f => some f

/-- The report on all tasks, in the order of paths. -/
def report (ended : List Ended) : Report where
  modules := (documented ended).mergeSort fun a b => a.path ≤ b.path
  failures := (failed ended).mergeSort fun a b => a.path ≤ b.path

/-- What comes of tasks that have ended in the given order. -/
def conclude (policy : FailurePolicy) (ended : List Ended) : Except Failure Report :=
  match policy with
  | .isolate => .ok (report ended)
  | .abort =>
    match firstFailure? ended with
    | some f => .error f
    | none => .ok (report ended)

/-- Documents module files. -/
def run (a : Assembler) (comments : String → String → Except Failure (List Comment)) (fs : Files)
    (policy : FailurePolicy) (concurrency : Nat) (picks : List Nat) (files : List ModuleFile) :
    Except Failure Report :=
  conclude policy
    (completions concurrency picks (files.map fun file => (file, process a comments fs file)))

/-- The time that a module file takes: one that cannot be read takes none. -/
def time (source : Source) (clock : Clock) (fs : Files) (file : ModuleFile) : Nat :=
  match fs.readText file.path with
  | .error _ => 0
  | .ok text => (source.time clock text).nanos

/-- What is reported about the modules that are left out. -/
def skipEvents (report : Report) : List Event :=
  report.failures.map fun f => .warn ("Skipping " ++ f.path ++ ": " ++ f.error)

end Batch

end ModuleDocs
