import ExtTypes.Declaration.Messages
import ExtTypes.Proofs.Text.Comment

/-! What a compiler sees of the declared messages. The description and the text of a message stand in a
comment as they are, so that an end of a comment in one of them lets the rest of it out. Main statement:
`withoutComments_messagesText`. -/
namespace ExtTypes.Declaration

open Text (uncomment endsInside withoutComments Apart IsMark uncomment_append uncomment_of_notMem
  uncomment_of_no_end)

/-! ### Parts of the text -/

/-- Lines with a line end after each. -/
def chars (ls : List String) : List Char := ls.flatMap fun l => l.toList ++ ['\n']

theorem toList_unlines (ls : List String) : (unlines ls).toList = chars ls := String.toList_ofList

theorem chars_append (ls ls' : List String) : chars (ls ++ ls') = chars ls ++ chars ls' :=
  List.flatMap_append

/-- The lines before the overloads. -/
def headLines : List String :=
  [header,
   "import \"wxt/browser\";",
   "",
   "declare module \"wxt/browser\" \x7b",
   "  /**",
   "   * See https://developer.chrome.com/docs/extensions/reference/i18n/#method-getMessage",
   "   */",
   "  interface GetMessageOptions \x7b",
   "    /**",
   "     * See https://developer.chrome.com/docs/extensions/reference/i18n/#method-getMessage",
   "     */",
   "    escapeLt?: boolean",
   "  \x7d",
   "",
   "  export interface WxtI18n extends I18n.Static \x7b"]

/-- The lines before the overloads, without their comments. -/
def bareHeadLines : List String :=
  [header,
   "import \"wxt/browser\";",
   "",
   "declare module \"wxt/browser\" \x7b",
   "  ",
   "  interface GetMessageOptions \x7b",
   "    ",
   "    escapeLt?: boolean",
   "  \x7d",
   "",
   "  export interface WxtI18n extends I18n.Static \x7b"]

/-- The lines after the overloads. -/
def tailLines : List String := ["  \x7d", "\x7d"]

/-- The comment of a message. -/
def commentLines (m : Message) : List String :=
  ["    /**",
   "     * " ++ descriptionText m,
   "     *",
   "     * \"" ++ m.text ++ "\"",
   "     */"]

/-- The overload for a message with this name. -/
def callLines (name : String) : List String :=
  ["    getMessage(",
   "      messageName: \"" ++ name ++ "\",",
   "      substitutions?: string | string[],",
   "      options?: GetMessageOptions,",
   "    ): string;"]

/-- What the declaration comes to without comments: one overload for each name. -/
def bareText (names : List String) : String :=
  unlines (bareHeadLines ++
    (if names.isEmpty then [""] else names.flatMap fun name => "    " :: callLines name) ++ tailLines)

def commentText (m : Message) : String := unlines (commentLines m)

/-- How the comment of a message starts, up to the description. -/
def openText : List Char := chars ["    /**"] ++ "     * ".toList

/-- What stands between the description and the text. -/
def middleText : List Char := chars ["", "     *"] ++ "     * \"".toList

/-- How the comment ends, after the text. -/
def closeText : List Char := chars ["\"", "     */"]

/-- What stands in the comment: the description and the text as they are. -/
def innerText (m : Message) : List Char :=
  (descriptionText m).toList ++ (middleText ++ m.text.toList)

theorem messageLines_eq (m : Message) : messageLines m = commentLines m ++ callLines m.name := rfl

theorem toList_messagesText (ms : List Message) : (messagesText ms).toList =
    chars headLines ++ (chars (overloadLines ms) ++ chars tailLines) := by
  show (unlines (headLines ++ overloadLines ms ++ tailLines)).toList = _
  rw [toList_unlines, chars_append, chars_append, List.append_assoc]

theorem uncomment_head : uncomment false (chars headLines) = chars bareHeadLines ∧
    endsInside false (chars headLines) = false := by decide +kernel

theorem slash_notMem_tail : '/' ∉ chars tailLines := by decide

/-- Letters, digits, and the two other characters that names have. -/
def IsNameChar (c : Char) : Prop := c.isAlphanum ∨ c = '_' ∨ c = '@'

instance (c : Char) : Decidable (IsNameChar c) := inferInstanceAs (Decidable (_ ∨ _))

theorem forall_isNameChar {ms : List Message}
    (h : (ms.all fun m => m.name.toList.all fun c => decide (IsNameChar c)) = true) :
    ∀ m ∈ ms, ∀ c ∈ m.name.toList, IsNameChar c := by
  simpa using h

theorem slash_notMem_call {name : String} (h : ∀ c ∈ name.toList, IsNameChar c) :
    '/' ∉ chars (callLines name) := by
  have hname : '/' ∉ name.toList := by
    intro hc
    exact absurd (h _ hc) (by decide)
  simp only [chars, callLines, List.flatMap_cons, List.flatMap_nil, String.toList_append,
    List.mem_append, hname, not_or]
  decide

theorem chars_commentLines (m : Message) :
    chars (commentLines m) = openText ++ (innerText m ++ closeText) := by
  have hempty : "".toList = [] := rfl
  simp only [chars, commentLines, openText, innerText, middleText, closeText, List.flatMap_cons,
    List.flatMap_nil, String.toList_append, List.append_assoc, List.append_nil, hempty,
    List.nil_append]

/-! ### Reading the comments -/

/-- A line end is no part of a mark. -/
theorem apart_chars (ls : List String) (t : List Char) : Apart (chars ls) t := by
  rcases List.eq_nil_or_concat ls with rfl | ⟨ls, l, rfl⟩
  · exact .inl nofun
  · have hlast : (chars (ls.concat l)).getLast? = some '\n' := by
      rw [List.concat_eq_append, chars_append]
      simp [chars]
    exact .of_getLast? hlast (by decide)

theorem apart_open (t : List Char) : Apart openText t :=
  .of_getLast? (c := ' ') rfl (by decide)

theorem apart_close (s : List Char) : Apart s closeText :=
  .of_head? (c := '"') rfl (by decide)

theorem apart_middle (s t : List Char) : Apart s (middleText ++ t) :=
  .of_head? (c := '\n') rfl (by decide)

theorem uncomment_open : uncomment false openText = "    ".toList ∧
    endsInside false openText = true := by decide

theorem uncomment_middle : uncomment true middleText = [] ∧
    endsInside true middleText = true := by decide

/-- The last line of a comment ends it, and leaves something in any case. -/
theorem uncomment_close (b : Bool) : 0 < (uncomment b closeText).length ∧
    endsInside b closeText = false := by
  cases b <;> decide

/-- After its comment a message is in the open, whatever stands in it, and the blanks and the line end
around the comment are left at least. -/
theorem uncomment_comment (m : Message) :
    (chars ["    "]).length ≤ (uncomment false (chars (commentLines m))).length ∧
      endsInside false (chars (commentLines m)) = false := by
  obtain ⟨hopen, hinside⟩ := uncomment_open
  obtain ⟨hclose, houtside⟩ := uncomment_close (endsInside true (innerText m))
  -- the text in the middle may end in a comment or not: the last line closes either
  obtain ⟨hstart, hstartEnds⟩ := uncomment_append false (apart_open (innerText m ++ closeText))
  obtain ⟨hend, hendEnds⟩ := uncomment_append true (apart_close (innerText m))
  rw [hopen, hinside, hend] at hstart
  rw [hinside, hendEnds, houtside] at hstartEnds
  rw [chars_commentLines]
  refine ⟨?_, hstartEnds⟩
  have hfour : "    ".toList.length = 4 := rfl
  have hfive : (chars ["    "]).length = 5 := rfl
  rw [hstart, List.length_append, List.length_append, hfour, hfive]
  omega

/-- A comment without an end in it is taken away as a whole. -/
theorem uncomment_comment_of_no_end {m : Message}
    (hdescription : ¬ ['*', '/'] <:+: (descriptionText m).toList)
    (htext : ¬ ['*', '/'] <:+: m.text.toList) :
    uncomment false (chars (commentLines m)) = chars ["    "] := by
  obtain ⟨hopen, hopenInside⟩ := uncomment_open
  obtain ⟨hmiddle, hmiddleInside⟩ := uncomment_middle
  obtain ⟨hd, hdInside⟩ := uncomment_of_no_end hdescription
  obtain ⟨ht, htInside⟩ := uncomment_of_no_end htext
  have hlast : Apart middleText m.text.toList := .of_getLast? (c := '"') rfl (by decide)
  have hclose : uncomment true closeText = ['\n'] := by decide
  rw [chars_commentLines, (uncomment_append false (apart_open _)).1, hopen, hopenInside,
    (uncomment_append true (apart_close _)).1, innerText,
    (uncomment_append true (apart_middle _ _)).1, (uncomment_append true (apart_middle _ _)).2,
    hd, hdInside, (uncomment_append true hlast).1, (uncomment_append true hlast).2, hmiddle,
    hmiddleInside, ht, htInside, hclose]
  rfl

theorem uncomment_call {name : String} (h : ∀ c ∈ name.toList, IsNameChar c) :
    uncomment false (chars (callLines name)) = chars (callLines name) ∧
      endsInside false (chars (callLines name)) = false :=
  uncomment_of_notMem (slash_notMem_call h)

/-- What is left of each message stands in its own place, and its overload is whole. -/
theorem uncomment_messages {ms : List Message}
    (h : ∀ m ∈ ms, ∀ c ∈ m.name.toList, IsNameChar c) :
    uncomment false (chars (ms.flatMap messageLines)) =
        ms.flatMap (fun m => uncomment false (chars (commentLines m)) ++ chars (callLines m.name)) ∧
      endsInside false (chars (ms.flatMap messageLines)) = false := by
  induction ms with
  | nil => exact ⟨rfl, rfl⟩
  | cons m ms ih =>
    obtain ⟨hm, hms⟩ := List.forall_mem_cons.mp h
    obtain ⟨hrest, hrestEnds⟩ := ih hms
    obtain ⟨hcall, hcallEnds⟩ := uncomment_call hm
    have hcomment := (uncomment_comment m).2
    obtain ⟨hmore, hmoreEnds⟩ := uncomment_append false
      (apart_chars (callLines m.name) (chars (ms.flatMap messageLines)))
    obtain ⟨hfirst, hfirstEnds⟩ := uncomment_append false (apart_chars (commentLines m)
      (chars (callLines m.name) ++ chars (ms.flatMap messageLines)))
    rw [List.flatMap_cons, List.flatMap_cons, messageLines_eq, List.append_assoc, chars_append,
      chars_append, hfirst, hfirstEnds, hcomment, hmore, hmoreEnds, hcall, hcallEnds, hrest,
      hrestEnds, List.append_assoc]
    exact ⟨rfl, rfl⟩

/-- All that is left of a declaration. -/
theorem uncomment_messagesText {ms : List Message}
    (h : ∀ m ∈ ms, ∀ c ∈ m.name.toList, IsNameChar c) :
    uncomment false (messagesText ms).toList = chars bareHeadLines ++
      ((if ms.isEmpty then chars [""] else ms.flatMap fun m =>
        uncomment false (chars (commentLines m)) ++ chars (callLines m.name)) ++ chars tailLines) := by
  obtain ⟨hhead, hheadEnds⟩ := uncomment_head
  have htail := (uncomment_of_notMem slash_notMem_tail).1
  have hmessages : uncomment false (chars (overloadLines ms)) = (if ms.isEmpty then chars [""] else
      ms.flatMap fun m => uncomment false (chars (commentLines m)) ++ chars (callLines m.name)) ∧
      endsInside false (chars (overloadLines ms)) = false := by
    rw [overloadLines]
    split
    · exact ⟨rfl, rfl⟩
    · exact uncomment_messages h
  rw [toList_messagesText, (uncomment_append false (apart_chars _ _)).1, hhead, hheadEnds,
    (uncomment_append false (apart_chars _ _)).1, hmessages.1, hmessages.2, htail]

theorem toList_bareText (names : List String) : (bareText names).toList = chars bareHeadLines ++
    ((if names.isEmpty then chars [""] else names.flatMap fun name =>
      chars ["    "] ++ chars (callLines name)) ++ chars tailLines) := by
  rw [bareText, toList_unlines, chars_append, chars_append, List.append_assoc]
  split
  · rfl
  · congr 2
    rw [chars, List.flatMap_assoc]
    rfl

/-- Parts that are not shorter make up the same whole only if they are the same. -/
theorem flatMap_eq_flatMap_iff {α β : Type} {f g h : α → List β} {as : List α}
    (hlength : ∀ a, (g a).length ≤ (f a).length) :
    (as.flatMap fun a => f a ++ h a) = (as.flatMap fun a => g a ++ h a) ↔ ∀ a ∈ as, f a = g a := by
  have hle (as : List α) :
      (as.flatMap fun a => g a ++ h a).length ≤ (as.flatMap fun a => f a ++ h a).length := by
    induction as with
    | nil => exact Nat.le_refl _
    | cons a as ih =>
      have ha := hlength a
      simp only [List.flatMap_cons, List.length_append]
      omega
  induction as with
  | nil => simp
  | cons a as ih =>
    rw [List.flatMap_cons, List.flatMap_cons, List.forall_mem_cons]
    refine Iff.trans ?_ (and_congr_right fun _ => ih)
    constructor
    · intro heq
      -- both parts are as long as they can be, as the wholes are of one length
      have hsum := congrArg List.length heq
      have hrest := hle as
      have ha := hlength a
      simp only [List.length_append] at hsum
      rw [List.append_assoc, List.append_assoc] at heq
      obtain ⟨hfirst, heq⟩ := List.append_inj heq (by omega)
      exact ⟨hfirst, List.append_cancel_left heq⟩
    · rintro ⟨ha, hrest⟩
      rw [ha, hrest]

theorem withoutComments_commentText_iff (m : Message) :
    withoutComments (commentText m) = "    \n" ↔
      uncomment false (chars (commentLines m)) = chars ["    "] := by
  rw [← String.toList_inj, withoutComments, String.toList_ofList, commentText, toList_unlines]
  rfl

theorem withoutComments_eq_bareText_iff {ms : List Message}
    (h : ∀ m ∈ ms, ∀ c ∈ m.name.toList, IsNameChar c) :
    withoutComments (messagesText ms) = bareText (ms.map (·.name)) ↔
      ∀ m ∈ ms, withoutComments (commentText m) = "    \n" := by
  simp only [withoutComments_commentText_iff]
  rw [← String.toList_inj, withoutComments, String.toList_ofList, uncomment_messagesText h,
    toList_bareText, List.append_cancel_left_eq, List.append_cancel_right_eq, List.isEmpty_map,
    List.flatMap_map]
  split
  · next hempty => simp [List.isEmpty_iff.mp hempty]
  · exact flatMap_eq_flatMap_iff fun m => (uncomment_comment m).1

/-- Without its comments a declaration is the frame with one overload for each message, in their
order, if nothing gets out of the comment of a message; and nothing does where neither the description
nor the text has the end of a comment. -/
theorem withoutComments_messagesText (ms : List Message)
    (h : ∀ m ∈ ms, ∀ c ∈ m.name.toList, IsNameChar c) :
    (withoutComments (messagesText ms) = bareText (ms.map (·.name)) ↔
      ∀ m ∈ ms, withoutComments (commentText m) = "    \n") ∧
    ∀ m : Message, ¬ ['*', '/'] <:+: (descriptionText m).toList → ¬ ['*', '/'] <:+: m.text.toList →
      withoutComments (commentText m) = "    \n" := by
  refine ⟨withoutComments_eq_bareText_iff h, ?_⟩
  intro m hdescription htext
  rw [withoutComments_commentText_iff]
  exact uncomment_comment_of_no_end hdescription htext

/-- Messages with marks in them, though none that ends a comment. -/
def greetings : List Message :=
  [⟨"greeting", "Hello /* $USER$ * /", some "//\nSaid first."⟩, ⟨"@@ui_locale", "", some ""⟩]

theorem withoutComments_greetings :
    withoutComments (messagesText greetings) = bareText ["greeting", "@@ui_locale"] := by
  obtain ⟨hiff, hheld⟩ := withoutComments_messagesText greetings
    (forall_isNameChar (by decide +kernel))
  have hplain : ∀ m ∈ greetings, ¬ ['*', '/'] <:+: (descriptionText m).toList ∧
      ¬ ['*', '/'] <:+: m.text.toList := by decide
  exact hiff.mpr fun m hm => hheld m (hplain m hm).1 (hplain m hm).2

/-- A pattern of files ends the comment that it stands in. -/
theorem withoutComments_shows_pattern :
    withoutComments (commentText ⟨"files", "Include **/*.ts", none⟩) = "    *.ts\"\n     */\n" ∧
      withoutComments (messagesText [⟨"files", "Include **/*.ts", none⟩]) ≠ bareText ["files"] := by
  have hcomment : withoutComments (commentText ⟨"files", "Include **/*.ts", none⟩) =
      "    *.ts\"\n     */\n" := by decide +kernel
  refine ⟨hcomment, ?_⟩
  intro hbare
  have hnames : ∀ m ∈ ([⟨"files", "Include **/*.ts", none⟩] : List Message),
      ∀ c ∈ m.name.toList, IsNameChar c := forall_isNameChar (by decide +kernel)
  have hblank := (withoutComments_eq_bareText_iff hnames).mp hbare _ List.mem_cons_self
  rw [hcomment] at hblank
  exact absurd hblank (by decide)

end ExtTypes.Declaration
