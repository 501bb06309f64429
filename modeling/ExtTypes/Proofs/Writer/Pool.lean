import ExtTypes.Proofs.Writer.Order

/-! Files that a pool writes: each call is made once, in an order that is left open. Any number of the
calls may fail, and files may be in the way of each other. Main statement: `writeAll_settles`: which
failure is told, and which files end as they do alone. -/
namespace ExtTypes

open FileSystem (Grows Rewrites IsShort)
open Log (State)

namespace Writer

variable {fs fs' fs'' : FileSystem} {f g : FileEntry} {files others : List FileEntry}
  {logs : Set Location} {σ τ φ : State} {r : Except Failure WriteResult}
  {rs : List (Except Failure WriteResult)}

theorem Unaffected.trans (h₁ : Unaffected f fs fs') (h₂ : Unaffected f fs' fs'') :
    Unaffected f fs fs'' where
  own := h₂.own.trans h₁.own
  files l hl := (h₂.files l hl).trans (h₁.files l hl)
  dirs l hl hd := h₂.dirs l hl (h₁.dirs l hl hd)

/-- A log file on the way is one before and after. -/
theorem Unaffected.of_rewrites (h : Rewrites logs fs fs') (hlog : f.location ∉ logs) :
    Unaffected f fs fs' where
  own := h.node?_eq hlog
  files l _ := by
    rcases h l with he | ⟨-, hb, hb'⟩
    · rw [he]
    · exact ⟨fun _ => hb, fun _ => hb'⟩
  dirs _ _ hd := h.dir_iff.mpr hd

/-- What is written apart from a file is new directories on the way to it, and nothing else there. -/
theorem Unaffected.of_grows (h : Grows {g.location} g.folder.way fs fs') (hg : g.IsPlain)
    (happ : f.Apart g) : Unaffected f fs fs' where
  own := by
    rcases h f.location with he | ⟨hl, -, -⟩ | ⟨hl, -⟩
    · exact he
    · have hway := (FileEntry.mem_way_folder hg).mp hl
      exact absurd (hway.trans (List.dropLast_prefix _)) happ.1
    · have heq : f.location = g.location := hl
      exact absurd (heq ▸ List.prefix_rfl) happ.1
  files l hl := by
    rcases h l with he | ⟨-, hn, hd⟩ | ⟨heq, -⟩
    · rw [he]
    · simp [hn, hd]
    · have hpre : g.location <+: f.location := heq ▸ hl.trans (List.dropLast_prefix _)
      exact absurd hpre happ.2
  dirs _ _ hd := h.dir hd

/-- Where a file was not affected, it is not after it was written in both. -/
theorem Unaffected.written (h : Unaffected f fs fs') (hf : f.IsPlain) :
    Unaffected f (writeOne fs f).2 (writeOne fs' f).2 := by
  obtain ⟨-, put, -, hput, hput'⟩ := writeOne_put hf h
  constructor
  case own => rw [hput, hput', h.own]
  case files =>
    intro l hl
    have hsame := h.files l hl
    rw [hput, hput']
    cases put l with
    | none => exact hsame
    | some k => exact .rfl
  case dirs =>
    intro l hl hd
    have hdir := h.dirs l hl
    rw [hput] at hd
    rw [hput']
    cases hk : put l with
    | none =>
      rw [hk] at hd
      exact hdir hd
    | some k =>
      rw [hk] at hd
      exact hd

/-- The outcome is the one of the call alone, and so is what it leaves behind. -/
theorem Unaffected.attempt (h : Unaffected f σ.files φ.files) (hφ : φ.logFiles = σ.logFiles)
    (hf : f.IsPlain) (hlog : f.location ∉ σ.logFiles) :
    Agree f.longDirs (attempt f σ).1 (attempt f φ).1 ∧
      Unaffected f (attempt f σ).2.files (attempt f φ).2.files := by
  obtain ⟨hσfst, hσlog⟩ := attempt_logged f σ
  obtain ⟨hφfst, hφlog⟩ := attempt_logged f φ
  constructor
  · rw [hσfst, hφfst]
    exact (writeOne_unaffected hf h).1
  -- without what was logged the two are related, and the log is not on the place of the file
  · have hbefore : Unaffected f (Writer.attempt f σ).2.files (writeOne σ.files f).2 :=
      .of_rewrites hσlog.files.symm hlog
    have hafter : Unaffected f (writeOne φ.files f).2 (Writer.attempt f φ).2.files :=
      .of_rewrites hφlog.files (hφ ▸ hlog)
    exact (hbefore.trans (h.written hf)).trans hafter

/-- Another call does not affect a file that is apart, -/
theorem unaffected_attempt (hg : g.IsPlain) (happ : f.Apart g) (hlog : f.location ∉ σ.logFiles) :
    Unaffected f σ.files (attempt g σ).2.files := by
  have hone : Unaffected f σ.files (writeOne σ.files g).2 :=
    .of_grows (writeOne_grows σ.files hg.isAbsolute) hg happ
  exact hone.trans (.of_rewrites (attempt_logged g σ).2.files hlog)

/-- and neither do many. These may well be in the way of each other. -/
theorem unaffected_writeEach (hothers : ∀ g ∈ others, g.IsPlain ∧ f.Apart g)
    (hlog : f.location ∉ σ.logFiles) : Unaffected f σ.files (writeEach σ others).2.files := by
  induction others generalizing σ with
  | nil => exact .refl
  | cons g others ih =>
    obtain ⟨⟨hg, happ⟩, hrest⟩ := List.forall_mem_cons.mp hothers
    have hfirst := unaffected_attempt hg happ hlog
    have hlog' : f.location ∉ (attempt g σ).2.logFiles := attempt_logFiles g σ ▸ hlog
    exact hfirst.trans (ih hrest hlog')

/-- The file ends as if it was written alone: so it is told, but for which directory is said to have
too long a name, and so it is found in the end. -/
structure EndsAsAlone (f : FileEntry) (σ : State) (r : Except Failure WriteResult) (τ : State) :
    Prop where
  outcome : Agree f.longDirs (attempt f σ).1 r
  exact : (∀ n ∈ f.location.dropLast.dropLast, IsShort n) → r = (attempt f σ).1
  left : Unaffected f (attempt f σ).2.files τ.files

/-- Between other calls, a call does what it does alone. -/
theorem endsAsAlone_between {earlier later : List FileEntry} (hf : f.IsPlain)
    (hearlier : ∀ g ∈ earlier, g.IsPlain ∧ f.Apart g) (hlater : ∀ g ∈ later, g.IsPlain ∧ f.Apart g)
    (hlog : f.location ∉ σ.logFiles) :
    EndsAsAlone f σ (attempt f (writeEach σ earlier).2).1
      (writeEach (attempt f (writeEach σ earlier).2).2 later).2 := by
  have hlogs := writeEach_logFiles earlier σ
  have hlogs' : (attempt f (writeEach σ earlier).2).2.logFiles = σ.logFiles :=
    (attempt_logFiles f _).trans hlogs
  obtain ⟨hagree, hown⟩ := (unaffected_writeEach hearlier hlog).attempt hlogs hf hlog
  constructor
  case outcome => exact hagree
  case exact =>
    intro hshort
    exact (hagree.eq_of_subsingleton (FileEntry.longDirs_subsingleton hshort)).symm
  case left => exact hown.trans (unaffected_writeEach hlater (hlogs' ▸ hlog))

/-- A run of the pool that ends in `τ`, with the outcomes `rs` in the order of the files. Each call
is made once. -/
structure Pooled (files : List FileEntry) (σ : State) (rs : List (Except Failure WriteResult))
    (τ : State) : Prop where
  length : rs.length = files.length
  calls : ∃ calls : List (FileEntry × Except Failure WriteResult), calls.Perm (files.zip rs) ∧
    writeEach σ (calls.map Prod.fst) = (calls.map Prod.snd, τ)

/-- To write the files in their order is one of the runs. -/
theorem pooled_writeEach (files : List FileEntry) (σ : State) :
    Pooled files σ (writeEach σ files).1 (writeEach σ files).2 := by
  have hlen := length_writeEach files σ
  refine ⟨hlen, files.zip (writeEach σ files).1, .refl _, ?_⟩
  rw [List.map_fst_zip hlen.ge, List.map_snd_zip hlen.le]

/-- Calls that are made in a given order are one of the runs, if no file is there twice. -/
theorem exists_pooled_writeAllIn {order : List FileEntry} (habs : ∀ f ∈ files, f.IsAbsolute)
    (hnodup : files.Nodup) (hperm : order.Perm files) (σ : State) :
    ∃ rs τ, Pooled files σ rs τ ∧ writeAllIn order files σ = (collect rs, τ) := by
  let told (f : FileEntry) : Except Failure WriteResult :=
    ((outcomes order σ).lookup f).getD (.ok (f.result false))
  have htold {l : List FileEntry} (hl : l ⊆ order) :
      (l.filterMap fun f => (outcomes order σ).lookup f) = l.map told := by
    rw [← List.filterMap_eq_map]
    apply List.filterMap_congr
    intro f hf
    obtain ⟨x, hx, -⟩ := exists_lookup_zip (length_writeEach order σ) (hl hf)
    have hlookup : (outcomes order σ).lookup f = some x := hx
    simp [told, hlookup]
  have houts : (writeEach σ order).1 = order.map told := by
    rw [← htold (List.Subset.refl order)]
    exact (filterMap_lookup_zip (hperm.nodup_iff.mpr hnodup) (length_writeEach order σ)).symm
  refine ⟨files.map told, (writeEach σ order).2, ⟨List.length_map _, ?_⟩, ?_⟩
  · refine ⟨order.map fun f => (f, told f), ?_, ?_⟩
    · rw [← List.map_prod_left_eq_zip]
      exact hperm.map _
    · have hfst : (order.map fun f => (f, told f)).map Prod.fst = order := by
        rw [List.map_map]
        exact List.map_id order
      have hsnd : (order.map fun f => (f, told f)).map Prod.snd = order.map told := List.map_map
      rw [hfst, hsnd, ← houts]
  · simp only [writeAllIn, find?_relative habs, htold hperm.symm.subset]

theorem writeEach_append (σ : State) (earlier later : List FileEntry) :
    writeEach σ (earlier ++ later) =
      ((writeEach σ earlier).1 ++ (writeEach (writeEach σ earlier).2 later).1,
        (writeEach (writeEach σ earlier).2 later).2) := by
  induction earlier generalizing σ with
  | nil => rfl
  | cons f earlier ih => rw [List.cons_append, writeEach_cons, writeEach_cons, ih, List.cons_append]

/-- Every file is tried, after some of the others and before the rest. -/
theorem Pooled.tried (h : Pooled files σ rs τ) (hr : (f, r) ∈ files.zip rs) :
    ∃ earlier later, (earlier ++ f :: later).Perm files ∧
      r = (attempt f (writeEach σ earlier).2).1 ∧
      τ = (writeEach (attempt f (writeEach σ earlier).2).2 later).2 := by
  obtain ⟨calls, hperm, hrun⟩ := h.calls
  obtain ⟨before, after, rfl⟩ := List.append_of_mem (hperm.mem_iff.mpr hr)
  refine ⟨before.map Prod.fst, after.map Prod.fst, ?_, ?_⟩
  · have hfiles := hperm.map Prod.fst
    rwa [List.map_fst_zip h.length.ge, List.map_append, List.map_cons] at hfiles
  · rw [List.map_append, List.map_append, List.map_cons, List.map_cons, writeEach_append,
      writeEach_cons] at hrun
    obtain ⟨houts, hend⟩ := Prod.mk.inj hrun
    have hlen : (writeEach σ (before.map Prod.fst)).1.length = (before.map Prod.snd).length := by
      rw [length_writeEach, List.length_map, List.length_map]
    obtain ⟨-, htail⟩ := List.append_inj houts hlen
    exact ⟨(List.cons.inj htail).1.symm, hend.symm⟩

theorem Pooled.endsAsAlone (h : Pooled files σ rs τ) (hplain : ∀ f ∈ files, f.IsPlain)
    (hr : (f, r) ∈ files.zip rs) (happ : ∀ g ∈ files.erase f, f.Apart g)
    (hlog : f.location ∉ σ.logFiles) : EndsAsAlone f σ r τ := by
  have hf : f ∈ files := (List.of_mem_zip hr).1
  obtain ⟨earlier, later, hperm, rfl, rfl⟩ := h.tried hr
  have hrest : (earlier ++ later).Perm (files.erase f) :=
    (List.cons_perm_iff_perm_erase.mp (List.perm_middle.symm.trans hperm)).2
  have hother : ∀ g ∈ earlier ++ later, g.IsPlain ∧ f.Apart g := by
    intro g hg
    have hmem := hrest.mem_iff.mp hg
    exact ⟨hplain g (List.mem_of_mem_erase hmem), happ g hmem⟩
  obtain ⟨hearlier, hlater⟩ := List.forall_mem_append.mp hother
  exact endsAsAlone_between (hplain f hf) hearlier hlater hlog

/-- The results stand in the order of the files, in whatever order these were written. -/
theorem Pooled.map_path {ws : List WriteResult} (h : Pooled files σ (ws.map .ok) τ) :
    ws.map WriteResult.path = files.map fun f => f.target.text := by
  have hlen : ws.length = files.length := by
    have hlen := h.length
    rwa [List.length_map] at hlen
  apply List.ext_getElem (by rw [List.length_map, List.length_map, hlen])
  intro i hi _
  have hws : i < ws.length := by simpa using hi
  have hfiles : i < files.length := hlen ▸ hws
  have hmem : (files[i], .ok ws[i]) ∈ files.zip (ws.map (.ok : _ → Except Failure WriteResult)) := by
    refine List.mem_iff_getElem.mpr ⟨i, by simp [hws, hfiles], ?_⟩
    rw [List.getElem_zip, List.getElem_map]
  obtain ⟨earlier, -, -, hout, -⟩ := h.tried hmem
  rw [List.getElem_map, List.getElem_map, path_of_attempt hout.symm]

theorem collect_of_first {α : Type} {before after : List (Except Failure α)} {e : Failure}
    (h : ∀ r ∈ before, ∃ a, r = .ok a) : collect (before ++ .error e :: after) = .error e := by
  induction before with
  | nil => rfl
  | cons r before ih =>
    obtain ⟨⟨a, rfl⟩, hrest⟩ := List.forall_mem_cons.mp h
    rw [List.cons_append, collect, ih hrest]
    rfl

/-- A path that is not absolute is refused before any file is written. -/
theorem writeAll_of_first {before after : List FileEntry} (hbefore : ∀ g ∈ before, g.IsAbsolute)
    (hf : ¬ f.IsAbsolute) (σ : State) :
    writeAll (before ++ f :: after) σ = (.error (.value (.relativeEntry f.path)), σ) := by
  have hrelative : (Path.ofString f.path).isAbsolute = false := Bool.eq_false_iff.mpr hf
  have hfind : (before ++ f :: after).find? (fun f => ! (Path.ofString f.path).isAbsolute) =
      some f := by
    rw [List.find?_append, find?_relative hbefore, Option.none_or]
    exact List.find?_cons_of_pos (by simp [hrelative])
  simp only [writeAll, hfind]

/-- What a run of the pool comes to, if `out` is what is told of it. -/
structure Settles (files : List FileEntry) (σ : State) (rs : List (Except Failure WriteResult))
    (out : Except Failure (List WriteResult)) (τ : State) : Prop where
  length : rs.length = files.length
  /-- Whatever became of the files before it, each file is tried. -/
  tried : ∀ f r, (f, r) ∈ files.zip rs → ∃ earlier later, (earlier ++ f :: later).Perm files ∧
    r = (attempt f (writeEach σ earlier).2).1 ∧
    τ = (writeEach (attempt f (writeEach σ earlier).2).2 later).2
  /-- A file that is apart from all others ends as it does alone, if no path goes up. -/
  alone : (∀ f ∈ files, Part.up ∉ f.target.parts) → ∀ f r, (f, r) ∈ files.zip rs →
    (∀ g ∈ files.erase f, f.Apart g) → f.location ∉ σ.logFiles → EndsAsAlone f σ r τ
  results : (∀ r ∈ rs, ∃ w, r = .ok w) → ∃ ws : List WriteResult, rs = ws.map .ok ∧ out = .ok ws ∧
    ws.map WriteResult.path = files.map fun f => f.target.text
  /-- What is told is the first failure in the order of the files. -/
  failure : ∀ before e after, rs = before ++ .error e :: after → (∀ r ∈ before, ∃ w, r = .ok w) →
    out = .error e

/-- The first path that is not absolute is told, and nothing is touched. If there is none, the pool
tries each file, one that is apart from all others ends as it does alone, and the first failure in
the order of the files is told, or all results in that order. -/
theorem writeAll_settles (files : List FileEntry) (σ : State) :
    (∀ before f after, files = before ++ f :: after → (∀ g ∈ before, g.IsAbsolute) →
      ¬ f.IsAbsolute → writeAll files σ = (.error (.value (.relativeEntry f.path)), σ)) ∧
    ((∀ f ∈ files, f.IsAbsolute) →
      (∃ rs τ, Pooled files σ rs τ ∧ writeAll files σ = (collect rs, τ)) ∧
        ∀ rs τ, Pooled files σ rs τ → Settles files σ rs (collect rs) τ) := by
  constructor
  · rintro before f after rfl hbefore hf
    exact writeAll_of_first hbefore hf σ
  · intro habs
    refine ⟨⟨_, _, pooled_writeEach files σ, writeAll_of_isAbsolute habs σ⟩, fun rs τ h => ?_⟩
    constructor
    case length => exact h.length
    case tried => exact fun f r hr => h.tried hr
    case alone =>
      intro hup f r hr happ hlog
      exact h.endsAsAlone (fun g hg => ⟨habs g hg, hup g hg⟩) hr happ hlog
    case results =>
      intro hok
      obtain ⟨ws, rfl⟩ := exists_map_ok hok
      exact ⟨ws, rfl, collect_eq_ok.mpr rfl, h.map_path⟩
    case failure =>
      rintro before e after rfl hok
      exact collect_of_first hok

/-- Of three files one is refused. The others are there in the end, as if they were written alone; with
one more file that has no absolute path, none is. -/
theorem writeAll_settles_refused : ∃ σ : State,
    (writeAll threeFiles σ).1 = .error (.disk .alreadyExists "/notes") ∧
      (∀ f ∈ threeFiles, (writeAll threeFiles σ).2.files.node? f.location =
        (attempt f σ).2.files.node? f.location) ∧
      writeAll (threeFiles ++ [⟨"notes/d", "4", false⟩]) σ =
        (.error (.value (.relativeEntry "notes/d")), σ) := by
  let σ : State := ⟨.unset, "", [], FileSystem.empty.writeFile [⟨"notes", by decide⟩] ByteArray.empty⟩
  have h : Independent σ.logFiles threeFiles :=
    independent_of_no_log rfl (by decide +kernel) (by decide +kernel)
  have habs : ∀ f ∈ threeFiles, f.IsAbsolute := fun f hf => (h.plain f hf).isAbsolute
  have happ : ∀ f ∈ threeFiles, ∀ g ∈ threeFiles.erase f, f.Apart g := by decide +kernel
  obtain ⟨⟨rs, τ, hpool, hall⟩, hsettles⟩ := (writeAll_settles threeFiles σ).2 habs
  have hruns : (writeEach σ threeFiles).1 = [.ok ⟨"/out/a", true⟩, .ok ⟨"/out/sub/b", true⟩] ++
      .error (.disk .alreadyExists "/notes") :: [] := by
    decide +kernel
  have htold := (hsettles _ _ (pooled_writeEach threeFiles σ)).failure _ _ _ hruns (by simp)
  refine ⟨σ, ?_, fun f hf => ?_, ?_⟩
  · rw [writeAll_of_isAbsolute habs, htold]
  · obtain ⟨r, -, hr⟩ := exists_lookup_zip hpool.length hf
    have hends : EndsAsAlone f σ r τ := (hsettles rs τ hpool).alone
      (fun g hg => (h.plain g hg).notUp) f r hr (happ f hf) (h.unlogged f hf)
    rw [hall]
    exact hends.left.own
  · have hrelative : ¬ (Path.ofString "notes/d").isAbsolute = true := by decide
    exact (writeAll_settles _ σ).1 threeFiles _ [] rfl habs hrelative

/-- Only the far file is refused, and what is told is not what is told of it alone. -/
theorem writeAll_shows_others : ∃ (σ : State) (e e' : Failure),
    Independent σ.logFiles [farFile, nearFile] ∧ (∃ w, (attempt nearFile σ).1 = .ok w) ∧
      (writeAll [farFile] σ).1 = .error e ∧ (writeAll [nearFile, farFile] σ).1 = .error e' ∧
      e ≠ e' := by
  let σ : State := ⟨.unset, "", [], FileSystem.empty⟩
  have h : Independent σ.logFiles [farFile, nearFile] := independent_far_near rfl
  have hmissing : σ.files.node? [newName] = none := by decide +kernel
  have hmade : (writeOne σ.files nearFile).2.node? [newName] = some .dir := by decide +kernel
  have hnear : (attempt nearFile σ).1 = .ok (nearFile.result true) := by decide +kernel
  obtain ⟨e, e', hne, hfirst, hsecond⟩ := attempt_farFile_ne rfl hmissing hmade
  have habs : ∀ f ∈ [farFile, nearFile], f.IsAbsolute := fun f hf => (h.plain f hf).isAbsolute
  refine ⟨σ, e, e', h, ⟨_, hnear⟩, ?_, ?_, hne⟩
  · rw [writeAll_of_isAbsolute (fun f hf => habs f (by simp_all)), writeEach_cons, hfirst]
    rfl
  · rw [writeAll_of_isAbsolute (fun f hf => habs f (by simp_all [or_comm])), writeEach_cons,
      writeEach_cons, hnear, hsecond]
    rfl

end Writer

end ExtTypes
