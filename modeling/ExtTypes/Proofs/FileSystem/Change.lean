import ExtTypes.Proofs.FileSystem.Route

/-! What a change may do to the files, and what two file systems may differ in, as sets of
locations. A change that grows within its sets takes nothing away: directories stay, and so do files
that are not among those written. -/
namespace ExtTypes.FileSystem

/-- `fs'` is `fs` after new directories among `dirs` where nothing was, and new or other bytes in
the files among `files`. -/
def Grows (files dirs : Set Location) (fs fs' : FileSystem) : Prop :=
  ∀ l, fs'.node? l = fs.node? l ∨
    (l ∈ dirs ∧ fs.node? l = none ∧ fs'.node? l = some .dir) ∨
    (l ∈ files ∧ fs.node? l ≠ some .dir ∧ ∃ b, fs'.node? l = some (.file b))

/-- `fs'` is `fs` with other bytes in files among `files`. -/
def Rewrites (files : Set Location) (fs fs' : FileSystem) : Prop :=
  ∀ l, fs'.node? l = fs.node? l ∨
    (l ∈ files ∧ (∃ b, fs.node? l = some (.file b)) ∧ ∃ b, fs'.node? l = some (.file b))

/-- `fs` and `fs'` differ in directories among `dirs` that only `fs'` has, and in files among
`files`, which may be missing in one of them. -/
def Alike (files dirs : Set Location) (fs fs' : FileSystem) : Prop :=
  ∀ l, fs'.node? l = fs.node? l ∨
    (l ∈ dirs ∧ fs.node? l = none ∧ fs'.node? l = some .dir) ∨
    (l ∈ files ∧ fs.node? l ≠ some .dir ∧ fs'.node? l ≠ some .dir)

variable {files files' dirs dirs' : Set Location} {fs fs₁ fs₂ fs₃ : FileSystem} {l : Location}

theorem Rewrites.refl : Rewrites files fs fs := fun _ => .inl rfl

theorem Rewrites.mono (h : Rewrites files fs₁ fs₂) (hsub : files ⊆ files') :
    Rewrites files' fs₁ fs₂ := by
  intro l
  rcases h l with h | ⟨hl, h⟩
  · exact .inl h
  · exact .inr ⟨hsub hl, h⟩

theorem Rewrites.trans (h₁ : Rewrites files fs₁ fs₂) (h₂ : Rewrites files fs₂ fs₃) :
    Rewrites files fs₁ fs₃ := by
  intro l
  rcases h₁ l with h₁ | ⟨hl, hb, hc⟩
  · rw [← h₁]
    exact h₂ l
  · rcases h₂ l with h₂ | ⟨-, -, hd⟩
    · exact .inr ⟨hl, hb, h₂ ▸ hc⟩
    · exact .inr ⟨hl, hb, hd⟩

theorem Rewrites.symm (h : Rewrites files fs₁ fs₂) : Rewrites files fs₂ fs₁ := by
  intro l
  rcases h l with h | ⟨hl, hb, hc⟩
  · exact .inl h.symm
  · exact .inr ⟨hl, hc, hb⟩

theorem Rewrites.grows (h : Rewrites files fs₁ fs₂) : Grows files dirs fs₁ fs₂ := by
  intro l
  rcases h l with h | ⟨hl, ⟨b, hb⟩, hc⟩
  · exact .inl h
  · exact .inr (.inr ⟨hl, by simp [hb], hc⟩)

theorem Rewrites.node?_eq (h : Rewrites files fs₁ fs₂) (hl : l ∉ files) :
    fs₂.node? l = fs₁.node? l :=
  (h l).resolve_right fun h => hl h.1

theorem Rewrites.dir_iff (h : Rewrites files fs₁ fs₂) :
    fs₂.node? l = some .dir ↔ fs₁.node? l = some .dir := by
  rcases h l with h | ⟨-, ⟨b, hb⟩, c, hc⟩
  · rw [h]
  · simp [hb, hc]

theorem Rewrites.none_iff (h : Rewrites files fs₁ fs₂) :
    fs₂.node? l = none ↔ fs₁.node? l = none := by
  rcases h l with h | ⟨-, ⟨b, hb⟩, c, hc⟩
  · rw [h]
  · simp [hb, hc]

theorem Grows.refl : Grows files dirs fs fs := fun _ => .inl rfl

theorem Grows.mono (h : Grows files dirs fs₁ fs₂) (hfiles : files ⊆ files') (hdirs : dirs ⊆ dirs') :
    Grows files' dirs' fs₁ fs₂ := by
  intro l
  rcases h l with h | ⟨hl, h⟩ | ⟨hl, h⟩
  · exact .inl h
  · exact .inr (.inl ⟨hdirs hl, h⟩)
  · exact .inr (.inr ⟨hfiles hl, h⟩)

/-- Directories stay. -/
theorem Grows.dir (h : Grows files dirs fs₁ fs₂) (hl : fs₁.node? l = some .dir) :
    fs₂.node? l = some .dir := by
  rcases h l with h | ⟨-, hn, -⟩ | ⟨-, hd, -⟩
  · rw [h, hl]
  · simp [hn] at hl
  · exact absurd hl hd

/-- Files stay files. -/
theorem Grows.file (h : Grows files dirs fs₁ fs₂) {b : ByteArray}
    (hl : fs₁.node? l = some (.file b)) : ∃ c, fs₂.node? l = some (.file c) := by
  rcases h l with h | ⟨-, hn, -⟩ | ⟨-, -, hc⟩
  · exact ⟨b, h.trans hl⟩
  · simp [hn] at hl
  · exact hc

/-- Files that are not written keep their bytes. -/
theorem Grows.file_eq (h : Grows files dirs fs₁ fs₂) {b : ByteArray}
    (hl : fs₁.node? l = some (.file b)) (hn : l ∉ files) : fs₂.node? l = some (.file b) := by
  rcases h l with h | ⟨-, hn, -⟩ | ⟨hm, -⟩
  · exact h.trans hl
  · simp [hn] at hl
  · exact absurd hm hn

/-- A file that is not written was there before. -/
theorem Grows.file_before (h : Grows files dirs fs₁ fs₂) {b : ByteArray}
    (hl : fs₂.node? l = some (.file b)) (hn : l ∉ files) : fs₁.node? l = some (.file b) := by
  rcases h l with h | ⟨-, -, hd⟩ | ⟨hm, -⟩
  · exact h.symm.trans hl
  · simp [hd] at hl
  · exact absurd hm hn

theorem Grows.trans (h₁ : Grows files dirs fs₁ fs₂) (h₂ : Grows files dirs fs₂ fs₃) :
    Grows files dirs fs₁ fs₃ := by
  intro l
  rcases h₁ l with h₁ | ⟨hl, hn, hd⟩ | ⟨hl, hd, b, hb⟩
  · rw [← h₁]
    exact h₂ l
  · exact .inr (.inl ⟨hl, hn, h₂.dir hd⟩)
  · exact .inr (.inr ⟨hl, hd, h₂.file hb⟩)

/-- Only what was not there is new. -/
theorem Grows.made (h : Grows files dirs fs₁ fs₂) :
    Grows files {l | l ∈ dirs ∧ fs₁.node? l = none ∧ fs₂.node? l = some .dir} fs₁ fs₂ := by
  intro l
  rcases h l with h | ⟨hl, hn, hd⟩ | h
  · exact .inl h
  · exact .inr (.inl ⟨⟨hl, hn, hd⟩, hn, hd⟩)
  · exact .inr (.inr h)

theorem Grows.passes (h : Grows files dirs fs₁ fs₂) {ps : List Part} (hp : fs₁.Passes l ps) :
    fs₂.Passes l ps :=
  hp.mono fun _ => h.dir

theorem Grows.locate (h : Grows files dirs fs₁ fs₂) {cwd : Location} {p : Path}
    (hp : fs₁.locate cwd p = .ok l) : fs₂.locate cwd p = .ok l := by
  obtain ⟨hf, hpass, hl⟩ := locate_eq_ok.mp hp
  exact locate_eq_ok.mpr ⟨hf, h.passes hpass, hl⟩

theorem Grows.alike (h : Grows files dirs fs₁ fs₂) : Alike files dirs fs₁ fs₂ := by
  intro l
  rcases h l with h | h | ⟨hl, hd, b, hb⟩
  · exact .inl h
  · exact .inr (.inl h)
  · exact .inr (.inr ⟨hl, hd, by simp [hb]⟩)

theorem Alike.mono (h : Alike files dirs fs₁ fs₂) (hfiles : files ⊆ files') :
    Alike files' dirs fs₁ fs₂ := by
  intro l
  rcases h l with h | h | ⟨hl, h⟩
  · exact .inl h
  · exact .inr (.inl h)
  · exact .inr (.inr ⟨hfiles hl, h⟩)

theorem Alike.symm (h : Alike files ∅ fs₁ fs₂) : Alike files ∅ fs₂ fs₁ := by
  intro l
  rcases h l with h | ⟨hl, -⟩ | ⟨hl, h₁, h₂⟩
  · exact .inl h.symm
  · exact absurd hl (Set.notMem_empty l)
  · exact .inr (.inr ⟨hl, h₂, h₁⟩)

theorem Alike.dir (h : Alike files dirs fs₁ fs₂) (hl : fs₁.node? l = some .dir) :
    fs₂.node? l = some .dir := by
  rcases h l with h | ⟨-, hn, -⟩ | ⟨-, hd, -⟩
  · rw [h, hl]
  · simp [hn] at hl
  · exact absurd hl hd

/-- A directory of the second is one of the first, or a new one. -/
theorem Alike.dir_or_new (h : Alike files dirs fs₁ fs₂) (hl : fs₂.node? l = some .dir) :
    fs₁.node? l = some .dir ∨ l ∈ dirs ∧ fs₁.node? l = none := by
  rcases h l with h | ⟨hm, hn, -⟩ | ⟨-, -, hd⟩
  · exact .inl (h.symm.trans hl)
  · exact .inr ⟨hm, hn⟩
  · exact absurd hl hd

theorem Alike.file_iff (h : Alike files dirs fs₁ fs₂) (hl : l ∉ files) {b : ByteArray} :
    fs₂.node? l = some (.file b) ↔ fs₁.node? l = some (.file b) := by
  rcases h l with h | ⟨-, hn, hd⟩ | ⟨hm, -⟩
  · rw [h]
  · simp [hn, hd]
  · exact absurd hm hl

theorem Alike.locate (h : Alike files dirs fs₁ fs₂) {cwd : Location} {p : Path}
    (hp : fs₁.locate cwd p = .ok l) : fs₂.locate cwd p = .ok l := by
  obtain ⟨hf, hpass, hl⟩ := locate_eq_ok.mp hp
  exact locate_eq_ok.mpr ⟨hf, hpass.mono fun _ => h.dir, hl⟩

/-- Other bytes in files that may differ anyway make no difference. -/
theorem Alike.rewrites (h : Alike files dirs fs₁ fs₂) {fs₁' fs₂' : FileSystem}
    (h₁ : Rewrites files fs₁ fs₁') (h₂ : Rewrites files fs₂ fs₂') : Alike files dirs fs₁' fs₂' := by
  intro l
  by_cases hl : l ∈ files
  · rcases h l with h | ⟨hm, hn, hd⟩ | ⟨-, hd₁, hd₂⟩
    · by_cases hd : fs₁.node? l = some .dir
      · exact .inl ((h₂.dir_iff.mpr (h.trans hd)).trans (h₁.dir_iff.mpr hd).symm)
      · refine .inr (.inr ⟨hl, fun he => hd (h₁.dir_iff.mp he), fun he => hd ?_⟩)
        exact h ▸ h₂.dir_iff.mp he
    · exact .inr (.inl ⟨hm, h₁.none_iff.mpr hn, h₂.dir_iff.mpr hd⟩)
    · exact .inr (.inr ⟨hl, fun he => hd₁ (h₁.dir_iff.mp he), fun he => hd₂ (h₂.dir_iff.mp he)⟩)
  · rw [h₁.node?_eq hl, h₂.node?_eq hl]
    exact h l

end ExtTypes.FileSystem
