import ExtTypes.Declaration.Lint
import ExtTypes.Proofs.Json.Ascii
import ExtTypes.Proofs.Json.Fields
import ExtTypes.Proofs.Text.Sorted

/-! What a linter reads in the file that tells it of the globals. Main statement: `lintFile_decodes`. -/
namespace ExtTypes

namespace Declaration

theorem mem_exposedNames {is : List Import} {n : String} :
    n ∈ exposedNames is ↔ n ≠ "" ∧ ∃ i ∈ is, (i.alias?.filter (· ≠ "")).getD i.name = n := by
  rw [exposedNames, List.mem_mergeSort, List.mem_filter, List.mem_map, decide_eq_true_eq, and_comm]
  simp only [Import.exposed_eq]

/-- The fields of the object of globals. -/
def lintFields (names : List String) (access : GlobalAccess) : List (String × Json) :=
  dedupFields (names.map fun n => (n, access.json))

theorem keys_lintFields (names : List String) (access : GlobalAccess) :
    (lintFields names access).map Prod.fst = names.eraseDups := by
  have hnames : (names.map fun n => (n, access.json)).map Prod.fst = names := by
    rw [List.map_map]
    exact List.map_id names
  rw [lintFields, keys_dedupFields, hnames]

theorem access_of_mem_lintFields {names : List String} {access : GlobalAccess}
    {f : String × Json} (h : f ∈ lintFields names access) : f.2 = access.json := by
  obtain ⟨n, -, rfl⟩ := List.mem_map.mp (mem_of_mem_dedupFields h)
  rfl

theorem legible_access (access : GlobalAccess) (room : Nat) : Json.Legible room access.json := by
  cases access with
  | flag b => exact .bool b
  | word s => exact .str s

theorem legible_lintObject (names : List String) (access : GlobalAccess) :
    Json.Legible Json.nestingLimit (lintObject names access) := by
  have hglobals : Json.Legible (Json.nestingLimit - 1) (.obj (lintFields names access)) := by
    refine .obj (nodup_dedupFields _) fun f hf => ?_
    rw [access_of_mem_lintFields hf]
    exact legible_access access _
  have hname : ["globals"].Nodup := by decide
  exact .obj hname (List.forall_mem_singleton.mpr hglobals)

/-- The file for the linter is in ASCII and ends in one line feed. It is read as an object of globals
that has each name that the imports expose, their alias or else their own name, but for the empty
one, once and in order, and each of them with the access that is set: a flag as it is, and a word as
a text. -/
theorem lintFile_decodes (is : List Import) (o : LintOptions) :
    Text.IsAscii (lintFile is o).text.toList ∧
      (∃ s, (lintFile is o).text.toList = s ++ ['}', '\n']) ∧
      ∃ fields, Json.parse (lintFile is o).text = .ok (.obj [("globals", .obj fields)]) ∧
        (fields.map Prod.fst).Pairwise (· < ·) ∧
        (∀ n, n ∈ fields.map Prod.fst ↔
          n ≠ "" ∧ ∃ i ∈ is, (i.alias?.filter (· ≠ "")).getD i.name = n) ∧
        ∀ f ∈ fields, match o.access with
          | .flag b => f.2 = .bool b
          | .word w => f.2 = .str w := by
  have hlegible := legible_lintObject (exposedNames is) o.access
  have hkeys := keys_lintFields (exposedNames is) o.access
  refine ⟨Json.isAscii_document hlegible, Json.document_obj_eq _,
    lintFields (exposedNames is) o.access, Json.parse_document hlegible, ?_, fun n => ?_,
    fun f hf => ?_⟩
  · rw [hkeys]
    exact pairwise_lt_eraseDups (List.pairwise_mergeSort' (· ≤ ·) _)
  · rw [hkeys, List.mem_eraseDups, mem_exposedNames]
  · have hvalue := access_of_mem_lintFields hf
    cases haccess : o.access with
    | flag b => rwa [haccess] at hvalue
    | word w => rwa [haccess] at hvalue

end Declaration

end ExtTypes
