import ExtTypes.Proofs.Generate.Stages

/-! What a run leaves alone. Main statement: `run_leaves_other_files`. -/
namespace ExtTypes.Generate

open Log (State)

/-- A run that fails before it writes changes no file, and makes no more than the directory for
declarations and what is missing above it. In every run directories stay, and so do the bytes of all
files that are not among those of its entries. The log file is left out of account. -/
theorem run_leaves_other_files (s : Settings) (entrypoints : List Entrypoint) (source : HookSource)
    (σ : State) :
    (∀ e τ, gather s entrypoints source σ = (.error e, τ) →
      run s entrypoints source σ = (.error e, τ) ∧
        ∀ l, l ∉ σ.logFiles → τ.files.node? l = σ.files.node? l ∨
          l <+: s.typesDir ∧ σ.files.node? l = none ∧ τ.files.node? l = some .dir) ∧
      (∀ l, σ.files.node? l = some .dir →
        (run s entrypoints source σ).2.files.node? l = some .dir) ∧
      ∀ l b, σ.files.node? l = some (.file b) →
        ∃ c, (run s entrypoints source σ).2.files.node? l = some (.file c) ∧
          (l ∉ σ.logFiles →
            (∀ entries, (gather s entrypoints source σ).1 = .ok entries →
              ∀ f ∈ targets s entries, f.location ≠ l) → c = b) := by
  rcases hg : gather s entrypoints source σ with ⟨e | entries, υ⟩
  · have hgather := gather_grows hg
    rw [run_of_gather_error hg]
    refine ⟨?_, fun l hl => hgather.dir hl, fun l b hb => ?_⟩
    · rintro e τ ⟨⟩
      refine ⟨rfl, fun l hl => ?_⟩
      rcases hgather l with h | h | ⟨hm, -⟩
      · exact .inl h
      · exact .inr h
      · exact absurd hm hl
    · obtain ⟨c, hc⟩ := hgather.file hb
      refine ⟨c, hc, fun hl _ => ?_⟩
      have hsame := hgather.file_eq hb hl
      simpa [hsame, eq_comm] using hc
  · have hrun := run_grows hg
    refine ⟨?_, fun l hl => hrun.dir hl, fun l b hb => ?_⟩
    · rintro e τ ⟨⟩
    · obtain ⟨c, hc⟩ := hrun.file hb
      refine ⟨c, hc, fun hl hother => ?_⟩
      have hnot : l ∉ Writer.locations (targets s entries) ∪ σ.logFiles := by
        rintro (⟨f, hf, he⟩ | hm)
        · exact hother entries rfl f hf he
        · exact hl hm
      have hsame := hrun.file_eq hb hnot
      simpa [hsame, eq_comm] using hc

/-- A project without sources, which asks for imports. -/
def sourceless : Settings :=
  { sample with
    sourceDir := sample.root ++ [⟨"src", by decide⟩]
    imports? := some .default }

def noteName : Name := ⟨"note", by decide⟩

/-- Without sources nothing is collected, and the one file that is there stays as it is. -/
theorem run_leaves_note :
    (gather sourceless [] (.given [])
        (quiet (FileSystem.empty.writeFile [noteName] "kept".toUTF8))).1 =
          .error (.noSourceDir "/project/src") ∧
      (run sourceless [] (.given [])
        (quiet (FileSystem.empty.writeFile [noteName] "kept".toUTF8))).2.files.node? [noteName] =
          some (.file "kept".toUTF8) := by
  have hfail : (gather sourceless [] (.given [])
      (quiet (FileSystem.empty.writeFile [noteName] "kept".toUTF8))).1 =
        .error (.noSourceDir "/project/src") := by decide +kernel
  have hnote : (quiet (FileSystem.empty.writeFile [noteName] "kept".toUTF8)).files.node?
      [noteName] = some (.file "kept".toUTF8) := by decide +kernel
  obtain ⟨c, hc, hsame⟩ :=
    (run_leaves_other_files sourceless [] (.given []) _).2.2 [noteName] _ hnote
  refine ⟨hfail, ?_⟩
  rw [hc, hsame (by simp) fun entries he => ?_]
  rw [hfail] at he
  cases he

/-- The project with the note as its log file. -/
def noteLogged : State := logging [noteName] (FileSystem.empty.writeFile [noteName] .empty)

/-- Nothing is collected, and yet there is more in the note. -/
theorem run_logs_to_note :
    (gather sourceless [] (.given []) noteLogged).1 = .error (.noSourceDir "/project/src") ∧
      noteLogged.files.node? [noteName] = some (.file .empty) ∧
      (run sourceless [] (.given []) noteLogged).2.files.node? [noteName] ≠
        some (.file .empty) := by
  decide +kernel

end ExtTypes.Generate
