import BuilderLint.CommandLine.Run
import BuilderLint.Proofs.Runs

/-! Scanning in shards.

A run over some paths followed by others has the outcomes of the two runs, merged and
sorted again (`run_append`). So the paths can be split up in any way and the parts put
together in any bracketing, and a document on its own has the outcome of the run over
its path alone (`run_of_shards`). -/
namespace BuilderLint
open Sorting
open CommandLine (outcomeAt)

/-- Paths that are split up, and how the parts are put together again. -/
inductive Shards where
  | paths (l : List String)
  | join (front back : Shards)

namespace Shards

/-- All paths, in order. -/
def all : Shards → List String
  | paths l => l
  | join front back => front.all ++ back.all

/-- The outcome of a run over each part, merged and sorted at each join. -/
def outcome (c : Checker) (load : String → Except LoadError Document) : Shards → Outcome
  | paths l => c.run load l
  | join front back => ((front.outcome c load).merge (back.outcome c load)).sort

end Shards

namespace Checker
variable (c : Checker) (load : String → Except LoadError Document)

theorem run_append (front back : List String) :
    c.run load (front ++ back) = ((c.run load front).merge (c.run load back)).sort := by
  rw [run_eq, run_eq, run_eq, Outcome.sort_eq, Document.loaded_append]
  simp only [Outcome.merge, byKey_append, List.flatMap_append, List.length_append, List.map_append,
    List.sum_append, UInt64.ofNat_add]

theorem outcome_shards (s : Shards) : s.outcome c load = c.run load s.all := by
  induction s with
  | paths l => rfl
  | join front back ihfront ihback =>
    unfold Shards.outcome Shards.all
    rw [ihfront, ihback, run_append]

/-- A document on its own, sorted, is a run over its path. -/
theorem exists_checkPath {path : String} {d : Document} (hload : load path = .ok d) :
    ∃ o, c.checkPath load path = .ok o ∧ o.sort = c.run load [path] := by
  have hloaded : Document.loaded load [path] = [(path, d)] := by
    simp [Document.loaded, hload, Except.toOption]
  refine ⟨{ c.checkDocument d path with scanned := 1 }, ?_, ?_⟩
  · simp [checkPath, hload, Except.map]
  · rw [run_eq, hloaded, c.checkDocument_eq (path, d), Outcome.sort_eq]
    simp

theorem outcomeAt_file {fs : FileSystem} {path : String} {entry : Entry}
    (hentry : fs.entry path = .ok entry) (hfile : entry.isDirectory = false) {d : Document}
    (hload : Document.load fs path = .ok d) (config : Config) :
    outcomeAt fs config c path = .ok (c.run (Document.load fs) [path]) := by
  obtain ⟨o, hcheck, hsort⟩ := c.exists_checkPath (Document.load fs) hload
  rw [← hsort]
  simp [outcomeAt, hentry, hfile, hcheck, bind, Except.bind, Except.mapError, pure, Except.pure]

/-- **Scanning in shards.** Splitting up the paths, running over the parts and putting the
outcomes together by merging and sorting gives the outcome of one run, for two parts and for any
number in any bracketing. Where the path that is to be checked is a document that loads, the
outcome at the path is that of a run over it alone. -/
theorem run_of_shards :
    (∀ front back,
      c.run load (front ++ back) = ((c.run load front).merge (c.run load back)).sort) ∧
    (∀ s : Shards, s.outcome c load = c.run load s.all) ∧
    (∀ path d, load path = .ok d →
      ∃ o, c.checkPath load path = .ok o ∧ o.sort = c.run load [path]) ∧
    ∀ (fs : FileSystem) (config : Config) (path : String) (entry : Entry) (d : Document),
      fs.entry path = .ok entry → entry.isDirectory = false → Document.load fs path = .ok d →
        outcomeAt fs config c path = .ok (c.run (Document.load fs) [path]) :=
  ⟨c.run_append load, c.outcome_shards load, fun _ _ hload => c.exists_checkPath load hload,
    fun _ config _ _ _ hentry hfile hload => c.outcomeAt_file hentry hfile hload config⟩

/-- A file with a root and a lambda on it. -/
def oneFile : FileSystem := FileSystem.empty.add "facts.json" (.file
  ("\x7b\"classes\":[\x7b\"name\":\"A\",\"annotations\":[\x7b\"name\":\"R\"\x7d]\x7d]," ++
    "\"lambdas\":[\x7b\"receiver\":\"A\"\x7d]\x7d").toUTF8)

theorem run_of_shards_oneFile :
    let c : Checker := ⟨{ names := ⟨"R", "M", "E"⟩ }, ⟨[]⟩, true⟩
    ∃ entry d, oneFile.entry "facts.json" = .ok entry ∧ entry.isDirectory = false ∧
      Document.load oneFile "facts.json" = .ok d ∧
      outcomeAt oneFile {} c "facts.json" = .ok (c.run (Document.load oneFile) ["facts.json"]) ∧
      (c.run (Document.load oneFile) ["facts.json"]).visited = 1 := by
  intro c
  obtain ⟨entry, hentry, hfile⟩ :
      ∃ entry, oneFile.entry "facts.json" = .ok entry ∧ entry.isDirectory = false := ⟨_, rfl, rfl⟩
  have hvisited : (c.run (Document.load oneFile) ["facts.json"]).visited = 1 := by decide +kernel
  cases hload : Document.load oneFile "facts.json" with
  | error e =>
    rw [run_eq] at hvisited
    simp [Document.loaded, hload, Except.toOption] at hvisited
  | ok d =>
    have hrun := (run_of_shards c (Document.load oneFile)).2.2.2 oneFile {} "facts.json" entry d
      hentry hfile hload
    exact ⟨entry, d, hentry, hfile, rfl, hrun, hvisited⟩

end Checker
end BuilderLint
