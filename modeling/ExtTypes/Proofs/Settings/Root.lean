import ExtTypes.Settings.Load
import ExtTypes.Proofs.Declaration.Paths
import ExtTypes.Proofs.Path.Shortest
import ExtTypes.Proofs.Settings.Resolution

/-! Which directory is the project's when settings are asked for by a path: the directory there, or
the one around a file or a configuration. A path that names nothing is taken for that of a file.
Main statement: `Settings.load_root`. -/
namespace ExtTypes

/-! ### Last parts -/

namespace Path

theorem collapse_child_name (cwd : Location) (p : Path) (n : Name) :
    (p.child n.val).collapse cwd = p.collapse cwd ++ [n] := by
  have hname : (ofString n.val).collapse (p.collapse cwd) =
      (⟨.relative, [n].map .name⟩ : Path).collapse (p.collapse cwd) := by
    rw [← text_name, ← List.map_singleton, ofString_text]
  rw [collapse_child, hname]
  exact Location.foldl_step_names _ [n]

/-- A path that ends in a name is the way to a directory and on to what has the name there. -/
theorem eq_child_of_getLast? {p : Path} {n : Name} (h : p.parts.getLast? = some (.name n)) :
    p = p.parent.child n.val := by
  have hparts : p.parts = p.parts.dropLast ++ [.name n] :=
    (List.dropLast_append_getLast? _ h).symm
  rw [child_val, below, join, if_neg (by simp [isAbsolute])]
  exact congrArg (Path.mk p.anchor) hparts

theorem getLast?_of_lastName {p : Path} {n : Name} (h : p.lastName = n.val) :
    p.parts.getLast? = some (.name n) := by
  unfold lastName at h
  cases hlast : p.parts.getLast? with
  | none =>
    rw [hlast] at h
    exact absurd h.symm n.property.1
  | some q =>
    rw [hlast] at h
    have htext : q.text = Part.text (.name n) := h
    rw [← Option.some_inj, ← Part.ofString?_text q, htext, Part.ofString?_text]

end Path

namespace FileSystem

variable {files : FileSystem} {cwd l : Location} {p : Path}

theorem resolve_eq_ok : resolve [] cwd p = .ok l ↔ hasNul p = false ∧ l = p.collapse cwd := by
  cases hnul : hasNul p with
  | true => simp [resolve, hnul]
  | false => simp [resolve_nil cwd p hnul, eq_comm]

/-- What is found at a path stands where it leads. -/
theorem find_eq_some {k : Node} (h : files.find cwd p = .ok (some k)) : hasNul p = false ∧
    files.Passes (p.start cwd) p.parts ∧ files.node? (p.collapse cwd) = some k := by
  unfold find at h
  cases hnul : hasNul p with
  | true =>
    rw [if_pos hnul] at h
    cases h
  | false =>
    rw [if_neg (by simp [hnul])] at h
    cases hlocate : files.locate cwd p with
    | error c =>
      rw [hlocate] at h
      cases c <;> cases h
    | ok l =>
      rw [hlocate] at h
      obtain ⟨-, hpass, rfl⟩ := locate_eq_ok.mp hlocate
      exact ⟨rfl, hpass, Except.ok.inj h⟩

/-- A path to a file ends in its name. -/
theorem exists_name_of_find_file (hcwd : files.node? cwd = some .dir) {b : ByteArray}
    (h : files.find cwd p = .ok (some (.file b))) : ∃ n, p.parts.getLast? = some (.name n) := by
  obtain ⟨-, hpass, hfile⟩ := find_eq_some h
  rw [Path.collapse_eq] at hfile
  rcases List.eq_nil_or_concat p.parts with hnil | ⟨ps, q, hparts⟩
  · -- the path says where it starts, and that is a directory
    rw [hnil] at hfile
    exact absurd ((node?_start hcwd p).symm.trans hfile) (by simp)
  · rw [List.concat_eq_append] at hparts
    cases q with
    | name n => exact ⟨n, by rw [hparts, List.getLast?_concat]⟩
    | up =>
      -- above a directory is another one
      rw [hparts, passes_append] at hpass
      rw [hparts, List.foldl_append] at hfile
      have hup := node?_dropLast hpass.2.1
      exact absurd (hup.symm.trans hfile) (by simp)

end FileSystem

namespace Settings

variable {reader : Reader} {files : FileSystem} {env : Surroundings} {p q c : Path} {s : Settings}

/-- The name of a configuration. -/
def configName : Name := ⟨configFileName, by decide⟩

/-- The path of a configuration, for what stands where the path that asks for it leads. -/
theorem configPath_eq_ok (h : configPath files env q = .ok c) :
    ∃ k?, files.find env.cwd q = .ok k? ∧
      c = if k? = some .dir then q.child configFileName
        else if q.lastName = configFileName then q else q.parent.child configFileName := by
  obtain ⟨isDir, hisDir, rfl⟩ := map_eq_ok_iff.mp h
  obtain ⟨k?, hk, rfl⟩ := map_eq_ok_iff.mp hisDir
  exact ⟨k?, hk, by simp⟩

theorem root_of_resolve {root : Location} {config : Value}
    (h : resolve [] root.path config = .ok s) : s.root = root := by
  obtain ⟨_, -, hs⟩ := resolved_of_resolve h
  obtain ⟨-, hroot⟩ := FileSystem.resolve_eq_ok.mp hs.root
  rwa [Path.collapse_path] at hroot

/-- A path that has the name of a configuration is the way to it. -/
theorem exists_child_of_configPath (h : configPath files env q = .ok c) :
    ∃ p : Path, c = p.child configName.val := by
  obtain ⟨k?, -, rfl⟩ := configPath_eq_ok h
  split
  · exact ⟨q, rfl⟩
  · split
    · next hname => exact ⟨q.parent, Path.eq_child_of_getLast? (Path.getLast?_of_lastName hname)⟩
    · exact ⟨q.parent, rfl⟩

/-- The root of the settings is where their configuration stands, or would stand. -/
theorem exists_configPath_of_load (hlinks : env.links = [])
    (h : loadWith reader files env p = .ok s) : ∃ q c, expandHome env p = .ok q ∧
      configPath files env q = .ok c ∧ FileSystem.hasNul c = false ∧
        c.collapse env.cwd = s.root ++ [configName] := by
  obtain ⟨q, hq, h⟩ := bind_eq_ok_iff.mp h
  obtain ⟨c, hc, h⟩ := bind_eq_ok_iff.mp h
  obtain ⟨file, hfile, h⟩ := bind_eq_ok_iff.mp h
  obtain ⟨found?, -, h⟩ := bind_eq_ok_iff.mp h
  rw [hlinks] at hfile h
  obtain ⟨hnul, rfl⟩ := FileSystem.resolve_eq_ok.mp hfile
  obtain ⟨p, rfl⟩ := exists_child_of_configPath hc
  have hroot : s.root = p.collapse env.cwd := by
    rw [Path.collapse_child_name, List.dropLast_concat] at h
    split at h
    · obtain ⟨text, -, h⟩ := bind_eq_ok_iff.mp h
      obtain ⟨config, -, h⟩ := bind_eq_ok_iff.mp h
      exact root_of_resolve h
    · obtain ⟨config, -, h⟩ := bind_eq_ok_iff.mp h
      exact root_of_resolve h
  exact ⟨q, _, hq, hc, hnul, by rw [Path.collapse_child_name, hroot]⟩

/-- The project that a path asks for: the directory there, or the one around the file there or around
a configuration that may be missing. -/
inductive AsksFor (files : FileSystem) (cwd : Location) (q : Path) (root : Location) : Prop
  | directory (hdir : files.find cwd q = .ok (some .dir))
      (hroot : FileSystem.resolve [] cwd q = .ok root) : AsksFor files cwd q root
  | file (b : ByteArray) (n : Name) (hfile : files.find cwd q = .ok (some (.file b)))
      (hroot : FileSystem.resolve [] cwd q = .ok (root ++ [n])) : AsksFor files cwd q root
  | config (hnone : files.find cwd q = .ok none) (hname : q.lastName = configFileName)
      (hroot : FileSystem.resolve [] cwd q = .ok (root ++ [configName])) : AsksFor files cwd q root

/-- The root of settings is the project that was asked for, by a path that leads to something or has
the name of a configuration. For any other path it is the parent. So it is with any reader of
configurations. -/
theorem load_root (hlinks : env.links = []) (hcwd : files.node? env.cwd = some .dir)
    (h : loadWith reader files env p = .ok s) : ∃ q, expandHome env p = .ok q ∧
      (AsksFor files env.cwd q s.root ∨
        files.find env.cwd q = .ok none ∧ q.lastName ≠ configFileName ∧
          FileSystem.resolve [] env.cwd q.parent = .ok s.root) := by
  obtain ⟨q, c, hq, hc, hnul, hroot⟩ := exists_configPath_of_load hlinks h
  refine ⟨q, hq, ?_⟩
  obtain ⟨k?, hk, rfl⟩ := configPath_eq_ok hc
  -- beside a path, the configuration shares the directory with it
  have hroot_of_child {p : Path} (hp : (p.child configName.val).collapse env.cwd =
      s.root ++ [configName]) : p.collapse env.cwd = s.root := by
    rw [Path.collapse_child_name] at hp
    exact List.append_cancel_right hp
  have hnul_of_child {p : Path} (hp : FileSystem.hasNul (p.child configName.val) = false) :
      FileSystem.hasNul p = false := by
    rw [Path.child_val, Path.below, Path.join, if_neg (by simp [Path.isAbsolute]),
      FileSystem.hasNul_append, Bool.or_eq_false_iff] at hp
    exact hp.1
  cases k? with
  | none =>
    rw [if_neg (by simp)] at hnul hroot
    split at hroot
    · next hname =>
      rw [if_pos hname] at hnul
      exact .inl (.config hk hname (FileSystem.resolve_eq_ok.mpr ⟨hnul, hroot.symm⟩))
    · next hname =>
      rw [if_neg hname] at hnul
      exact .inr ⟨hk, hname, FileSystem.resolve_eq_ok.mpr
        ⟨hnul_of_child hnul, (hroot_of_child hroot).symm⟩⟩
  | some k =>
    cases k with
    | dir =>
      rw [if_pos rfl] at hnul hroot
      have hq' := FileSystem.resolve_eq_ok.mpr ⟨hnul_of_child hnul, (hroot_of_child hroot).symm⟩
      exact .inl (.directory hk hq')
    | file b =>
      rw [if_neg (by simp)] at hnul hroot
      obtain ⟨hplain, -, -⟩ := FileSystem.find_eq_some hk
      obtain ⟨n, hn⟩ := FileSystem.exists_name_of_find_file hcwd hk
      have hlast := Path.eq_child_of_getLast? hn
      refine .inl (.file b n hk (FileSystem.resolve_eq_ok.mpr ⟨hplain, ?_⟩))
      rw [hlast, Path.collapse_child_name]
      split at hroot
      · next hname =>
        rw [hlast, Path.collapse_child_name] at hroot
        rw [List.append_inj_left' hroot rfl]
      · rw [hroot_of_child hroot]

/-- A project in the home directory, where one is. -/
def inProject : Surroundings :=
  { cwd := Generate.sample.root
    links := []
    home? := fun user => if user = "" then some (Path.ofString "/project") else none }

/-- A disk with a project and a directory in it. -/
def utilsDisk : FileSystem := (FileSystem.empty.makeDirs [] (Path.ofString "/project/utils")).2

/-- Up and down again, from the home directory. -/
theorem load_root_home : ∃ s q,
    load utilsDisk inProject (Path.ofString "~/utils/../utils") = .ok s ∧
      q = Path.ofString "/project/utils/../utils" ∧
      AsksFor utilsDisk inProject.cwd q s.root := by
  have hload : (load utilsDisk inProject (Path.ofString "~/utils/../utils")).map
      Settings.root = .ok (Generate.sample.root ++ [⟨"utils", by decide⟩]) := by
    decide +kernel
  obtain ⟨s, hs, -⟩ := map_eq_ok_iff.mp hload
  obtain ⟨q, hq, hasked⟩ := load_root rfl (by decide +kernel) hs
  have hhome : expandHome inProject (Path.ofString "~/utils/../utils") =
      .ok (Path.ofString "/project/utils/../utils") := by
    decide +kernel
  obtain rfl := Except.ok.inj (hq.symm.trans hhome)
  rcases hasked with hasked | ⟨hnone, -⟩
  · exact ⟨s, _, hs, rfl, hasked⟩
  · have hfound : utilsDisk.find inProject.cwd
        (Path.ofString "/project/utils/../utils") ≠ .ok none := by
      decide +kernel
    exact absurd hnone hfound

/-- A path that leads to nothing, since a letter is missing, gives the settings of the directory that
it is seen from. -/
theorem load_root_mistyped :
    utilsDisk.find inProject.cwd (Path.ofString "util") = .ok none ∧
      (load utilsDisk inProject (Path.ofString "util")).map Settings.root =
        .ok inProject.cwd ∧
      ¬ AsksFor utilsDisk inProject.cwd (Path.ofString "util") inProject.cwd := by
  have hnone : utilsDisk.find inProject.cwd (Path.ofString "util") = .ok none := by
    decide +kernel
  refine ⟨hnone, by decide +kernel, ?_⟩
  rintro (⟨hdir, -⟩ | ⟨b, n, hfile, -⟩ | ⟨-, hname, -⟩)
  · rw [hnone] at hdir
    cases hdir
  · rw [hnone] at hfile
    cases hfile
  · exact absurd hname (by decide)

end Settings

end ExtTypes
