/-
  What readers take from a text.

  `Takes scan text a rest` says that a reader that stands before the characters `text`
  gives `a` and then stands before `rest`, and `Refuses scan text` that it ends with a
  fault, wherever in a file the text begins. Both follow from what a reader comes to
  further on: `Leads scan text further left` says that it comes to the same as another one
  before the characters `left`. A sequence goes on with its second part where the first one
  ends (`Takes.goesOn`), and white space before a token does not matter (`leads_spaces`).
-/
import GoEnum.Json.Cursor
import GoEnum.Proofs.Json.Grammar
import GoEnum.Proofs.Text.Utf8

namespace GoEnum.Json

variable {α β : Type}

/-! ### Bytes of characters -/

/-- The bytes of some characters. -/
def bytesOf (cs : List Char) : List UInt8 :=
  cs.flatMap String.utf8EncodeChar

@[simp] theorem bytesOf_nil : bytesOf [] = [] :=
  rfl

theorem bytesOf_cons (c : Char) (cs : List Char) :
    bytesOf (c :: cs) = String.utf8EncodeChar c ++ bytesOf cs :=
  rfl

theorem bytesOf_append (cs ds : List Char) : bytesOf (cs ++ ds) = bytesOf cs ++ bytesOf ds :=
  List.flatMap_append

/-- Whether a character has one byte. -/
def IsAscii (c : Char) : Prop :=
  c.toNat < 0x80

instance (c : Char) : Decidable (IsAscii c) :=
  inferInstanceAs (Decidable (_ < _))

theorem bytesOf_ascii {c : Char} (hc : IsAscii c) (cs : List Char) :
    bytesOf (c :: cs) = UInt8.ofNat c.toNat :: bytesOf cs := by
  have hcode : c.val.toNat ≤ 0x7F := Nat.le_of_lt_succ hc
  rw [bytesOf_cons, String.utf8EncodeChar, if_pos hcode]
  rfl

theorem ofUInt8_ofNat {c : Char} (hc : IsAscii c) : Char.ofUInt8 (UInt8.ofNat c.toNat) = c := by
  rw [← Char.toNat_inj]
  change (UInt8.ofNat c.toNat).toUInt32.toNat = c.toNat
  rw [UInt8.toNat_toUInt32, UInt8.toNat_ofNat']
  exact Nat.mod_eq_of_lt (Nat.lt_trans hc (by decide))

/-- A byte that is read as a character of one byte belongs to that character. -/
theorem eq_of_mem_utf8EncodeChar {b : UInt8} {c d : Char} (hb : b ∈ String.utf8EncodeChar c)
    (hd : IsAscii d) (h : Char.ofUInt8 b = d) : c = d := by
  have hcode : b.toNat = d.toNat := by
    rw [← h]
    exact (UInt8.toNat_toUInt32 b).symm
  rw [← Char.toNat_inj, ← hcode]
  exact Text.Utf8.toNat_of_mem_utf8EncodeChar hb (hcode ▸ hd)

theorem utf8EncodeChar_ne_nil (c : Char) : String.utf8EncodeChar c ≠ [] := by
  unfold String.utf8EncodeChar
  dsimp only
  split_ifs <;> exact List.cons_ne_nil _ _

theorem length_bytesOf_append (cs ds : List Char) :
    (bytesOf (cs ++ ds)).length = (bytesOf cs).length + (bytesOf ds).length := by
  rw [bytesOf_append, List.length_append]

theorem length_bytesOf_lt (c : Char) (cs : List Char) :
    (bytesOf cs).length < (bytesOf (c :: cs)).length := by
  have hpos := List.length_pos_of_ne_nil (utf8EncodeChar_ne_nil c)
  rw [bytesOf_cons, List.length_append]
  omega

/-! ### Taking and refusing -/

/-- Whether a reader before a text comes to the same as a further one before what is left. -/
def Leads (scan : Scan α) (text : List Char) (further : Scan α) (left : List Char) : Prop :=
  ∀ cursor : Cursor, cursor.rest = bytesOf text →
    ∃ after : Cursor, after.rest = bytesOf left ∧ scan cursor = further after

/-- Whether a reader gives a result from the first characters of a text and leaves the rest. -/
def Takes (scan : Scan α) (text : List Char) (result : α) (rest : List Char) : Prop :=
  Leads scan text (pure result) rest

/-- Whether a reader ends with a fault at a text. -/
def Refuses (scan : Scan α) (text : List Char) : Prop :=
  ∀ cursor : Cursor, cursor.rest = bytesOf text → ∃ fault, scan cursor = .error fault

section

variable {scan further : Scan α} {next : α → Scan β} {text left rest : List Char} {a : α}

theorem bind_apply (scan : Scan α) (next : α → Scan β) (cursor : Cursor) :
    (scan >>= next) cursor = (scan cursor).bind fun taken => next taken.1 taken.2 :=
  rfl

theorem Leads.refl (scan : Scan α) (text : List Char) : Leads scan text scan text :=
  fun cursor hcursor => ⟨cursor, hcursor, rfl⟩

theorem Leads.trans {last : Scan α} (h : Leads scan text further left)
    (hlast : Leads further left last rest) : Leads scan text last rest := by
  intro cursor hcursor
  obtain ⟨middle, hmiddle, hscan⟩ := h cursor hcursor
  obtain ⟨after, hafter, hfurther⟩ := hlast middle hmiddle
  exact ⟨after, hafter, hscan.trans hfurther⟩

/-- What the further reader takes is taken from the start. -/
theorem Leads.takes (h : Leads scan text further left) (htakes : Takes further left a rest) :
    Takes scan text a rest :=
  h.trans htakes

/-- What the further reader refuses is refused from the start. -/
theorem Leads.refuses (h : Leads scan text further left) (hrefuses : Refuses further left) :
    Refuses scan text := by
  intro cursor hcursor
  obtain ⟨after, hafter, hscan⟩ := h cursor hcursor
  obtain ⟨fault, hfault⟩ := hrefuses after hafter
  exact ⟨fault, hscan.trans hfault⟩

theorem Leads.bind (h : Leads scan text further left) (next : α → Scan β) :
    Leads (scan >>= next) text (further >>= next) left := by
  intro cursor hcursor
  obtain ⟨after, hafter, hscan⟩ := h cursor hcursor
  refine ⟨after, hafter, ?_⟩
  rw [bind_apply, bind_apply, hscan]

/-- A sequence goes on with its second part after what its first part takes. -/
theorem Takes.goesOn (h : Takes scan text a left) (next : α → Scan β) :
    Leads (scan >>= next) text (next a) left :=
  Leads.bind h next

theorem Takes.bind {b : β} (h : Takes scan text a left) (hnext : Takes (next a) left b rest) :
    Takes (scan >>= next) text b rest :=
  (h.goesOn next).takes hnext

theorem Refuses.bind (h : Refuses scan text) (next : α → Scan β) :
    Refuses (scan >>= next) text := by
  intro cursor hcursor
  obtain ⟨fault, hfault⟩ := h cursor hcursor
  refine ⟨fault, ?_⟩
  rw [bind_apply, hfault]
  rfl

theorem takes_pure (a : α) (text : List Char) : Takes (pure a) text a text :=
  Leads.refl _ _

theorem refuses_fail (reason : Reason) (text : List Char) :
    Refuses (fail reason : Scan α) text :=
  fun _ _ => ⟨_, rfl⟩

/-- A sequence that ends with a fault at the latest. -/
theorem refuses_bind_fail (scan : Scan α) (reason : α → Reason) (text : List Char) :
    Refuses (scan >>= fun a => (fail (reason a) : Scan β)) text := by
  intro cursor _
  rw [bind_apply]
  cases scan cursor with
  | error fault => exact ⟨fault, rfl⟩
  | ok taken => exact ⟨_, rfl⟩

/-- A text is taken in one way. -/
theorem Takes.unique {other : α} (h : Takes scan text a rest)
    (hother : Takes scan text other left) : a = other := by
  obtain ⟨_, -, hscan⟩ := h (.start (bytesOf text)) rfl
  obtain ⟨_, -, hother⟩ := hother (.start (bytesOf text)) rfl
  exact congrArg Prod.fst (Except.ok.inj (hscan.symm.trans hother))

theorem Takes.not_refuses (h : Takes scan text a rest) : ¬Refuses scan text := by
  intro hrefuses
  obtain ⟨_, -, hscan⟩ := h (.start (bytesOf text)) rfl
  obtain ⟨_, hfault⟩ := hrefuses (.start (bytesOf text)) rfl
  cases hscan.symm.trans hfault

/-- A reader that looks at how many bytes are left. -/
theorem leads_sized (f : Nat → Scan α) (text : List Char) :
    Leads (do f ((← get).rest.length + 1)) text (f ((bytesOf text).length + 1)) text := by
  intro cursor hcursor
  refine ⟨cursor, hcursor, ?_⟩
  rw [← hcursor]
  rfl

end

/-! ### Single bytes -/

section

variable {c : Char} {text rest : List Char}

theorem takes_peek (hc : IsAscii c) (rest : List Char) :
    Takes peek (c :: rest) (some c) (c :: rest) := by
  intro cursor hcursor
  refine ⟨{ cursor with peeked := true }, hcursor, ?_⟩
  rw [peek, hcursor, bytesOf_ascii hc, List.head?_cons, Option.map_some, ofUInt8_ofNat hc]
  rfl

theorem takes_peek_nil : Takes peek [] none [] := by
  intro cursor hcursor
  refine ⟨{ cursor with peeked := true }, hcursor, ?_⟩
  rw [peek, hcursor]
  rfl

theorem takes_peek_head (h : ∀ c ∈ text.head?, IsAscii c) : Takes peek text text.head? text := by
  cases text with
  | nil => exact takes_peek_nil
  | cons c rest => exact takes_peek (h c rfl) rest

theorem takes_nextByte (hc : IsAscii c) (rest : List Char) :
    Takes nextByte (c :: rest) (some (UInt8.ofNat c.toNat)) rest := by
  intro cursor hcursor
  rw [bytesOf_ascii hc] at hcursor
  refine ⟨⟨bytesOf rest, cursor.taken + 1, false⟩, rfl, ?_⟩
  rw [nextByte, hcursor]
  rfl

theorem takes_next (hc : IsAscii c) (rest : List Char) : Takes next (c :: rest) (some c) rest := by
  refine (takes_nextByte hc rest).bind ?_
  rw [Option.map_some, ofUInt8_ofNat hc]
  exact takes_pure _ _

theorem takes_discard (hc : IsAscii c) (rest : List Char) : Takes discard (c :: rest) () rest :=
  (takes_nextByte hc rest).bind (takes_pure _ _)

theorem takes_takeIdent {cs : List Char} (hcs : cs.all (IsAscii ·) = true) (rest : List Char) :
    Takes (takeIdent cs) (cs ++ rest) () rest := by
  induction cs with
  | nil => exact takes_pure _ _
  | cons c cs ih =>
    rw [List.all_cons, Bool.and_eq_true, decide_eq_true_eq] at hcs
    refine (takes_next hcs.1 _).bind ?_
    simp only [↓reduceIte]
    exact ih hcs.2

/-! ### Runs of bytes -/

theorem bytesOf_eq_map {cs : List Char} (hcs : ∀ c ∈ cs, IsAscii c) :
    bytesOf cs = cs.map fun c => UInt8.ofNat c.toNat := by
  induction cs with
  | nil => rfl
  | cons c cs ih =>
    rw [bytesOf_ascii (hcs c List.mem_cons_self), List.map_cons,
      ih fun d hd => hcs d (List.mem_cons_of_mem c hd)]

theorem map_ofUInt8 {cs : List Char} (hcs : ∀ c ∈ cs, IsAscii c) :
    (bytesOf cs).map Char.ofUInt8 = cs := by
  rw [bytesOf_eq_map hcs, List.map_map]
  conv_rhs => rw [← List.map_id cs]
  exact List.map_congr_left fun c hc => ofUInt8_ofNat (hcs c hc)

theorem takes_takeWhile {p : Char → Bool} {run : List Char}
    (hrun : ∀ c ∈ run, IsAscii c ∧ p c = true) (hrest : ∀ c ∈ rest.head?, IsAscii c ∧ p c = false) :
    Takes (takeWhile p) (run ++ rest) run rest := by
  have hascii : ∀ c ∈ run, IsAscii c := fun c hc => (hrun c hc).1
  have htaken : ∀ b ∈ bytesOf run, p (.ofUInt8 b) = true := by
    intro b hb
    rw [bytesOf_eq_map hascii] at hb
    obtain ⟨c, hc, rfl⟩ := List.mem_map.mp hb
    rw [ofUInt8_ofNat (hascii c hc)]
    exact (hrun c hc).2
  have hleft : (bytesOf rest).takeWhile (fun b => p (.ofUInt8 b)) = [] := by
    cases rest with
    | nil => rfl
    | cons c rest =>
      obtain ⟨hc, hstop⟩ := hrest c rfl
      rw [bytesOf_ascii hc, List.takeWhile_cons_of_neg]
      rw [ofUInt8_ofNat hc, hstop]
      exact Bool.false_ne_true
  intro cursor hcursor
  have hbytes : cursor.rest.takeWhile (fun b => p (.ofUInt8 b)) = bytesOf run := by
    rw [hcursor, bytesOf_append, List.takeWhile_append_of_pos htaken, hleft, List.append_nil]
  unfold takeWhile
  simp only [hbytes]
  split
  · rename_i hempty
    have hrun : run = [] := by
      cases run with
      | nil => rfl
      | cons c run =>
        rw [bytesOf_ascii (hascii c List.mem_cons_self)] at hempty
        cases hempty
    subst hrun
    exact ⟨cursor, hcursor, rfl⟩
  · rw [hcursor, bytesOf_append, List.drop_left, map_ofUInt8 hascii]
    exact ⟨_, rfl, rfl⟩

/-! ### White space and tokens -/

/-- Whether a character of one byte may start a token. -/
def StartsToken (c : Char) : Prop :=
  IsAscii c ∧ isSpace c = false

instance (c : Char) : Decidable (StartsToken c) :=
  inferInstanceAs (Decidable (_ ∧ _))

theorem IsSpaces.ascii {spaces : List Char} (h : IsSpaces spaces) :
    ∀ c ∈ spaces, IsAscii c ∧ isSpace c = true := by
  intro c hc
  rcases h c hc with rfl | rfl | rfl | rfl <;> decide

theorem takes_peekToken (hc : StartsToken c) (rest : List Char) :
    Takes peekToken (c :: rest) (some c) (c :: rest) := by
  have hspace : Takes (takeWhile isSpace) ([] ++ c :: rest) [] (c :: rest) := by
    refine takes_takeWhile (by simp) ?_
    rintro d ⟨⟩
    exact hc
  have hdiscard : Takes peekToken.discardSpace (c :: rest) () (c :: rest) :=
    hspace.bind (takes_pure _ _)
  exact hdiscard.bind (takes_peek hc.1 rest)

theorem takes_peekToken_nil : Takes peekToken [] none [] := by
  have hspace : Takes (takeWhile isSpace) ([] ++ []) [] [] := takes_takeWhile (by simp) (by simp)
  have hdiscard : Takes peekToken.discardSpace [] () [] := hspace.bind (takes_pure _ _)
  exact hdiscard.bind takes_peek_nil

theorem drop_length_takeWhile (p : α → Bool) (as : List α) :
    as.drop (as.takeWhile p).length = as.dropWhile p := by
  have h : (as.takeWhile p ++ as.dropWhile p).drop (as.takeWhile p).length = as.dropWhile p :=
    List.drop_left
  rwa [List.takeWhile_append_dropWhile] at h

/-- Where the next token is looked at. -/
theorem peekToken_apply (cursor : Cursor) :
    peekToken cursor =
      .ok ((cursor.rest.dropWhile fun b => isSpace (.ofUInt8 b)).head?.map Char.ofUInt8,
        ⟨cursor.rest.dropWhile fun b => isSpace (.ofUInt8 b),
          cursor.taken + (cursor.rest.takeWhile fun b => isSpace (.ofUInt8 b)).length, true⟩) := by
  have hrun : peekToken cursor =
      ((takeWhile isSpace cursor).bind fun taken => .ok ((), taken.2)).bind
        fun taken => peek taken.2 :=
    rfl
  have hdrop := drop_length_takeWhile (fun b => isSpace (.ofUInt8 b)) cursor.rest
  rw [hrun, takeWhile]
  split
  · rename_i hempty
    rw [List.isEmpty_iff] at hempty
    rw [hempty] at hdrop ⊢
    rw [← hdrop]
    rfl
  · rw [hdrop]
    rfl

/-- White space before a token does not matter. -/
theorem leads_spaces {spaces : List Char} (hspaces : IsSpaces spaces) (text : List Char)
    (next : Option Char → Scan α) :
    Leads (peekToken >>= next) (spaces ++ text) (peekToken >>= next) text := by
  have hskipped : ∀ b ∈ bytesOf spaces, isSpace (.ofUInt8 b) = true := by
    intro b hb
    rw [bytesOf_eq_map fun c hc => (hspaces.ascii c hc).1] at hb
    obtain ⟨c, hc, rfl⟩ := List.mem_map.mp hb
    rw [ofUInt8_ofNat (hspaces.ascii c hc).1]
    exact (hspaces.ascii c hc).2
  intro cursor hcursor
  refine ⟨⟨bytesOf text, cursor.taken + (bytesOf spaces).length, false⟩, rfl, ?_⟩
  rw [bind_apply, bind_apply, peekToken_apply, peekToken_apply, hcursor, bytesOf_append,
    List.dropWhile_append_of_pos hskipped, List.takeWhile_append_of_pos hskipped,
    List.length_append, Nat.add_assoc]

/-- A reader that looks at a token goes on with its first character. -/
theorem leads_token (hc : StartsToken c) (text : List Char) (next : Option Char → Scan α) :
    Leads (peekToken >>= next) (c :: text) (next (some c)) (c :: text) :=
  (takes_peekToken hc text).goesOn next

theorem leads_spacedToken {spaces : List Char} (hspaces : IsSpaces spaces) (hc : StartsToken c)
    (text : List Char) (next : Option Char → Scan α) :
    Leads (peekToken >>= next) (spaces ++ c :: text) (next (some c)) (c :: text) :=
  (leads_spaces hspaces _ next).trans (leads_token hc text next)

end

end GoEnum.Json
