import Switchboard.Line.Peer
import Switchboard.Proofs.Agent.Encoding
/-!
# What is read of an answer

A reader gets the bytes of a connection in pieces, and looks at each piece as it comes. What it makes
of them in the end depends on the bytes only, not on where they were cut: before the first line feed
stands the line, if it is short enough; too many bytes without one are none; and if the connection
ends before either, what is left is a line.

* `Says` — what bytes say as a line.
* `Standing` — what is settled once these bytes were seen. It is one thing (`Standing.unique`), there is
  always something (`Standing.exists_standing`), and what is settled stays settled (`Standing.append`).
* `Reader.IsFresh` — a reader has searched no line feed; `Reader.look_of_standing` — what it makes of
  its bytes.
* `Reader.readAll_of_standing` — the same after all pieces, whatever they are.
* `Brings` — what comes of a call whose connection brings these bytes; `comesTo_eq_iff_brings` — the law.
-/

namespace Switchboard

/-- What a call comes to, if it comes to anything. -/
def Invocation.comesTo (i : Invocation) : Option Outcome := i.delay.map fun _ => i.outcome

namespace Line

/-! ## Bytes and lines -/

theorem bytesOf_eq_utf8 (line : String) : bytesOf line = Text.utf8 line.toList := by
  have hbytes := Text.utf8_eq_toByteArray line.toList
  rw [String.ofList_toList] at hbytes
  exact (congrArg (fun a : ByteArray => a.data.toList) hbytes).symm

theorem textOf?_eq_some_iff {bytes : List UInt8} {line : String} :
    Text.textOf? bytes = some line ↔ bytesOf line = bytes := by
  rw [bytesOf_eq_utf8]
  constructor
  · intro h
    exact (Text.eq_utf8_of_textOf? h).symm
  · intro h
    rw [← h, Text.textOf?_utf8, String.ofList_toList]

theorem lineOf_eq (bytes : List UInt8) :
    lineOf bytes = match Text.textOf? (withoutReturn bytes) with
      | some line => .ok line
      | none => .error .notText := rfl

/-- The bytes are a line of this text, up to a carriage return at their end. -/
theorem lineOf_eq_ok_iff {bytes : List UInt8} {line : String} :
    lineOf bytes = .ok line ↔ bytesOf line = withoutReturn bytes := by
  rw [lineOf_eq, ← textOf?_eq_some_iff]
  cases Text.textOf? (withoutReturn bytes) with
  | none => exact ⟨nofun, nofun⟩
  | some other =>
    constructor
    · intro h
      rw [Except.ok.inj h]
    · intro h
      rw [Option.some.inj h]

/-- The bytes are no text. -/
theorem lineOf_eq_error_iff {bytes : List UInt8} :
    lineOf bytes = .error .notText ↔ ∀ line, bytesOf line ≠ withoutReturn bytes := by
  constructor
  · intro h line hline
    rw [lineOf_eq_ok_iff.mpr hline] at h
    cases h
  · intro h
    rw [lineOf_eq]
    cases htext : Text.textOf? (withoutReturn bytes) with
    | none => rfl
    | some line => exact absurd (textOf?_eq_some_iff.mp htext) (h line)

/-- What bytes say as a line: a text, or they are none. -/
inductive Says (bytes : List UInt8) : Outcome → Prop
  | text {line : String} (hbytes : bytesOf line = withoutReturn bytes) : Says bytes (.response line)
  | noText (hbytes : ∀ line, bytesOf line ≠ withoutReturn bytes) :
      Says bytes (.fault (.message "Unable to decode input as UTF8"))

/-! ## What is settled -/

/-- What is settled once these bytes were seen, and at most `limit` of them may be a line. -/
inductive Standing (limit : Nat) (bytes : List UInt8) : Option (Except LineFault String) → Prop
  | line {front rest : List UInt8} (heq : bytes = front ++ lineFeed :: rest)
      (hfree : lineFeed ∉ front) (hshort : front.length ≤ limit) :
      Standing limit bytes (some (lineOf front))
  | tooLong (hlong : limit < bytes.length) (hfree : lineFeed ∉ bytes.take (limit + 1)) :
      Standing limit bytes (some (.error .tooLong))
  | pending (hfree : lineFeed ∉ bytes) (hshort : bytes.length ≤ limit) : Standing limit bytes none

/-- The bytes in front of the first line feed. -/
theorem front_eq {bytes front rest : List UInt8} (heq : bytes = front ++ lineFeed :: rest)
    (hfree : lineFeed ∉ front) : front = bytes.takeWhile (· ≠ lineFeed) := by
  have hall : ∀ b ∈ front, decide (b ≠ lineFeed) = true := by
    intro b hb
    exact decide_eq_true fun h => hfree (h ▸ hb)
  rw [heq, List.takeWhile_append_of_pos hall, List.takeWhile_cons_of_neg (by simp), List.append_nil]

theorem lineFeed_mem_take {front : List UInt8} {n : Nat} (hn : front.length < n)
    (rest : List UInt8) : lineFeed ∈ (front ++ lineFeed :: rest).take n := by
  obtain ⟨k, rfl⟩ := Nat.exists_eq_add_of_lt hn
  rw [Nat.add_assoc, List.take_length_add_append]
  exact List.mem_append_right _ List.mem_cons_self

namespace Standing

variable {limit : Nat} {bytes : List UInt8} {v v' : Option (Except LineFault String)}

/-- Something is settled, or nothing is yet. -/
theorem exists_standing (limit : Nat) (bytes : List UInt8) : ∃ v, Standing limit bytes v := by
  by_cases hfeed : lineFeed ∈ bytes
  · obtain ⟨front, rest, heq, hfree⟩ := List.eq_append_cons_of_mem hfeed
    by_cases hshort : front.length ≤ limit
    · exact ⟨_, .line heq hfree hshort⟩
    · refine ⟨_, .tooLong ?_ ?_⟩
      · rw [heq, List.length_append, List.length_cons]
        omega
      · rw [heq, List.take_append_of_le_length (by omega)]
        exact fun h => hfree (List.mem_of_mem_take h)
  · by_cases hshort : bytes.length ≤ limit
    · exact ⟨_, .pending hfeed hshort⟩
    · exact ⟨_, .tooLong (Nat.lt_of_not_le hshort) fun h => hfeed (List.mem_of_mem_take h)⟩

/-- Only one thing is. -/
theorem unique (h : Standing limit bytes v) (h' : Standing limit bytes v') : v = v' := by
  cases h with
  | line heq hfree hshort =>
    cases h' with
    | line heq' hfree' _ => rw [front_eq heq hfree, front_eq heq' hfree']
    | tooLong hlong' hfree' =>
      rw [heq] at hfree'
      exact absurd (lineFeed_mem_take (Nat.lt_succ_of_le hshort) _) hfree'
    | pending hfree' hshort' =>
      rw [heq] at hfree'
      exact absurd (List.mem_append_right _ List.mem_cons_self) hfree'
  | tooLong hlong hfree =>
    cases h' with
    | line heq' hfree' hshort' =>
      rw [heq'] at hfree
      exact absurd (lineFeed_mem_take (Nat.lt_succ_of_le hshort') _) hfree
    | tooLong hlong' hfree' => rfl
    | pending hfree' hshort' => omega
  | pending hfree hshort =>
    cases h' with
    | line heq' hfree' hshort' =>
      rw [heq'] at hfree
      exact absurd (List.mem_append_right _ List.mem_cons_self) hfree
    | tooLong hlong' hfree' => omega
    | pending hfree' hshort' => rfl

/-- What is settled stays settled, whatever comes behind. -/
theorem append {line : Except LineFault String} (h : Standing limit bytes (some line))
    (more : List UInt8) : Standing limit (bytes ++ more) (some line) := by
  cases h with
  | @line front rest heq hfree hshort =>
    have heq' : bytes ++ more = front ++ lineFeed :: (rest ++ more) := by
      rw [heq, List.append_assoc]
      rfl
    exact .line heq' hfree hshort
  | tooLong hlong hfree =>
    refine .tooLong ?_ ?_
    · rw [List.length_append]
      omega
    · rw [List.take_append_of_le_length hlong]
      exact hfree

theorem free_of_none (h : Standing limit bytes none) : lineFeed ∉ bytes := by
  cases h with
  | pending hfree _ => exact hfree

end Standing

/-! ## What a reader makes of it -/

/-- None of the bytes that the reader has searched is a line feed, and it has searched none that it has
not seen. -/
structure Reader.IsFresh (r : Reader) : Prop where
  free : lineFeed ∉ r.received.take r.searched
  le : r.searched ≤ r.received.length

theorem findIdx?_of_free {bytes : List UInt8} (hfree : lineFeed ∉ bytes) :
    bytes.findIdx? (· == lineFeed) = none := by
  rw [List.findIdx?_eq_none_iff]
  intro b hb
  exact beq_eq_false_iff_ne.mpr fun h => hfree (h ▸ hb)

theorem findIdx?_of_first {front : List UInt8} (hfree : lineFeed ∉ front) (rest : List UInt8) :
    (front ++ lineFeed :: rest).findIdx? (· == lineFeed) = some front.length := by
  rw [List.findIdx?_append, findIdx?_of_free hfree, List.findIdx?_cons, if_pos (beq_self_eq_true _)]
  exact congrArg some (Nat.zero_add front.length)

namespace Reader

theorem isFresh_empty : ({} : Reader).IsFresh := ⟨List.not_mem_nil, Nat.le_refl 0⟩

/-- A fresh reader is one with more bytes too: those that it searched are still in front. -/
theorem IsFresh.append {r : Reader} (hfresh : r.IsFresh) (piece : List UInt8) :
    ({ r with received := r.received ++ piece } : Reader).IsFresh where
  free := by
    rw [List.take_append_of_le_length hfresh.le]
    exact hfresh.free
  le := by
    rw [List.length_append]
    exact Nat.le_add_right_of_le hfresh.le

/-- A reader of bytes without a line feed may have searched them all. -/
theorem isFresh_of_free {bytes : List UInt8} (hfree : lineFeed ∉ bytes) :
    (⟨bytes, bytes.length⟩ : Reader).IsFresh where
  free := by rwa [List.take_length]
  le := Nat.le_refl _

/-- What a reader makes of its bytes is what is settled by them. -/
theorem look_of_standing {limit : Nat} {r : Reader} {v : Option (Except LineFault String)}
    (hfresh : r.IsFresh) (h : Standing limit r.received v) :
    r.look limit = v.elim (.more { r with searched := r.received.length }) .done := by
  cases h with
  | @line front rest heq hfree hshort =>
    have hsearched : r.searched ≤ front.length := by
      by_contra hlt
      rw [Nat.not_le] at hlt
      have hmem := lineFeed_mem_take hlt rest
      rw [← heq] at hmem
      exact hfresh.free hmem
    have hwindow : r.received.take (limit + 1)
        = front ++ lineFeed :: rest.take (limit - front.length) := by
      rw [heq, List.take_append, List.take_of_length_le (by omega),
        show limit + 1 - front.length = limit - front.length + 1 by omega, List.take_succ_cons]
    have hfound : ((r.received.take (limit + 1)).drop r.searched).findIdx? (· == lineFeed)
        = some (front.length - r.searched) := by
      rw [hwindow, List.drop_append_of_le_length hsearched,
        findIdx?_of_first fun hmem => hfree (List.mem_of_mem_drop hmem), List.length_drop]
    have hline : (r.received.take (limit + 1)).take (r.searched + (front.length - r.searched))
        = front := by
      rw [hwindow, Nat.add_sub_cancel' hsearched, List.take_left]
    simp only [look, hfound, hline, Option.elim]
  | tooLong hlong hfree =>
    have hnone := findIdx?_of_free fun hmem => hfree (List.mem_of_mem_drop (i := r.searched) hmem)
    simp only [look, hnone, if_pos hlong, Option.elim]
  | pending hfree hshort =>
    have hwindow : r.received.take (limit + 1) = r.received :=
      List.take_of_length_le (Nat.le_succ_of_le hshort)
    have hnone := findIdx?_of_free fun hmem => hfree (List.mem_of_mem_drop (i := r.searched) hmem)
    simp only [look, hwindow, hnone, if_neg (Nat.not_lt_of_le hshort), Option.elim]

/-- What comes of a line that is waited for, with nothing settled when the pieces are over. -/
def ending (ends : Bool) (bytes : List UInt8) : Ending :=
  if ends then
    if bytes = [] ∨ bytes = [carriageReturn] then .closed else .done (lineOf bytes)
  else .waiting

theorem finish_of_pending {limit : Nat} {r : Reader} (hfresh : r.IsFresh)
    (h : Standing limit r.received none) :
    r.finish limit
      = if r.received = [] ∨ r.received = [carriageReturn] then none
        else some (lineOf r.received) := by
  rw [finish, look_of_standing hfresh h, Option.elim]

/-- **What comes of the pieces is what their bytes settle**, by induction on the pieces: what one piece
settles the later ones leave settled, and before that the reader is a fresh one with more bytes. -/
theorem readAll_of_standing {limit : Nat} {ends : Bool} {r : Reader} {pieces : List (List UInt8)}
    {v : Option (Except LineFault String)} (hfresh : r.IsFresh)
    (hpending : Standing limit r.received none)
    (h : Standing limit (r.received ++ pieces.flatten) v) :
    r.readAll limit ends pieces = v.elim (ending ends (r.received ++ pieces.flatten)) .done := by
  induction pieces generalizing r with
  | nil =>
    rw [List.flatten_nil, List.append_nil] at h ⊢
    obtain rfl := h.unique hpending
    rw [readAll, finish_of_pending hfresh hpending, Option.elim, ending]
    cases ends with
    | false => rfl
    | true => split_ifs <;> rfl
  | cons piece rest ih =>
    rw [List.flatten_cons, ← List.append_assoc] at h ⊢
    obtain ⟨v', hv'⟩ := Standing.exists_standing limit (r.received ++ piece)
    rw [readAll, feed, look_of_standing (hfresh.append piece) hv']
    cases v' with
    | some line =>
      obtain rfl := h.unique (hv'.append rest.flatten)
      rfl
    | none => exact ih (isFresh_of_free hv'.free_of_none) hv' h

/-- So it is for a reader that has seen nothing yet. -/
theorem readAll_empty {limit : Nat} {pieces : List (List UInt8)}
    {v : Option (Except LineFault String)} (h : Standing limit pieces.flatten v) (ends : Bool) :
    ({} : Reader).readAll limit ends pieces = v.elim (ending ends pieces.flatten) .done := by
  have hpending : Standing limit ({} : Reader).received none :=
    .pending List.not_mem_nil (Nat.zero_le _)
  exact readAll_of_standing isFresh_empty hpending h

end Reader

/-! ## What a call brings -/

/-- What comes of a call whose connection brings these bytes, and then ends or does not. -/
inductive Brings (address : String) (bytes : List UInt8) (ends : Bool) : Option Outcome → Prop
  /-- A line feed stands among the first 65537 bytes: what is behind it does not matter. -/
  | line {front rest : List UInt8} {o : Outcome} (heq : bytes = front ++ lineFeed :: rest)
      (hfree : lineFeed ∉ front) (hshort : front.length < 65537) (hsaid : Says front o) :
      Brings address bytes ends (some o)
  /-- There are more than 65536 bytes and none of the first 65537 is a line feed. -/
  | tooLong (hlong : 65536 < bytes.length) (hfree : lineFeed ∉ bytes.take 65537) :
      Brings address bytes ends (some (.fault (.message "max line length exceeded")))
  /-- The connection ends before that: what is left is the line. -/
  | rest {o : Outcome} (hends : ends = true) (hfree : lineFeed ∉ bytes)
      (hshort : bytes.length ≤ 65536) (hleft : ¬ (bytes = [] ∨ bytes = [carriageReturn]))
      (hsaid : Says bytes o) : Brings address bytes ends (some o)
  /-- The connection ends with nothing that could be a line. -/
  | closed (hends : ends = true) (hnone : bytes = [] ∨ bytes = [carriageReturn]) :
      Brings address bytes ends
        (some (.fault (.message (address ++ " closed the connection without answering"))))
  /-- The connection is open still, and the line feed may come. -/
  | waiting (hends : ends = false) (hfree : lineFeed ∉ bytes) (hshort : bytes.length ≤ 65536) :
      Brings address bytes ends none

/-- What a call makes of a line, or of there being none. -/
def said : Except LineFault String → Outcome
  | .ok line => .response line
  | .error why => .fault (.message why.text)

/-- What a call makes of the end of a line that it waits for. -/
def Reader.Ending.outcome? (address : String) : Reader.Ending → Option Outcome
  | .done line => some (said line)
  | .closed => some (.fault (Connection.unanswered address))
  | .waiting => none

/-- What a call makes of its bytes, with so much settled. -/
def settled (address : String) (bytes : List UInt8) (ends : Bool)
    (v : Option (Except LineFault String)) : Option Outcome :=
  (v.elim (Reader.ending ends bytes) .done).outcome? address

theorem says_lineOf (bytes : List UInt8) : Says bytes (said (lineOf bytes)) := by
  cases hline : lineOf bytes with
  | ok line => exact .text (lineOf_eq_ok_iff.mp hline)
  | error why =>
    cases why with
    | notText => exact .noText (lineOf_eq_error_iff.mp hline)
    | tooLong =>
      rw [lineOf_eq] at hline
      split at hline <;> cases hline

theorem Says.eq_said {bytes : List UInt8} {o : Outcome} (h : Says bytes o) :
    o = said (lineOf bytes) := by
  cases h with
  | text hbytes => rw [lineOf_eq_ok_iff.mpr hbytes, said]
  | noText hbytes => rw [lineOf_eq_error_iff.mpr hbytes, said, LineFault.text]

section

variable {address : String} {bytes : List UInt8} {ends : Bool}

/-- What is settled brings what the call makes of it. -/
theorem brings_of_standing {v : Option (Except LineFault String)} (h : Standing maxLength bytes v) :
    Brings address bytes ends (settled address bytes ends v) := by
  cases h with
  | line heq hfree hshort => exact .line heq hfree (Nat.lt_succ_of_le hshort) (says_lineOf _)
  | tooLong hlong hfree => exact .tooLong hlong hfree
  | pending hfree hshort =>
    cases hends : ends with
    | false => exact .waiting rfl hfree hshort
    | true =>
      by_cases hnone : bytes = [] ∨ bytes = [carriageReturn]
      · rw [settled, Option.elim, Reader.ending, if_pos rfl, if_pos hnone]
        exact .closed rfl hnone
      · rw [settled, Option.elim, Reader.ending, if_pos rfl, if_neg hnone]
        exact .rest rfl hfree hshort hnone (says_lineOf bytes)

/-- What the bytes bring is what the call makes of what is settled by them. -/
theorem Brings.exists_standing {o : Option Outcome} (h : Brings address bytes ends o) :
    ∃ v, Standing maxLength bytes v ∧ o = settled address bytes ends v := by
  cases h with
  | line heq hfree hshort hsaid =>
    exact ⟨_, .line heq hfree (Nat.le_of_lt_succ hshort), congrArg some hsaid.eq_said⟩
  | tooLong hlong hfree => exact ⟨_, .tooLong hlong hfree, rfl⟩
  | rest hends hfree hshort hleft hsaid =>
    refine ⟨none, .pending hfree hshort, ?_⟩
    rw [settled, Option.elim, Reader.ending, if_pos hends, if_neg hleft]
    exact congrArg some hsaid.eq_said
  | closed hends hnone =>
    have hpending : Standing maxLength bytes none := by
      obtain rfl | rfl := hnone <;> exact .pending (by decide) (by decide)
    refine ⟨none, hpending, ?_⟩
    rw [settled, Option.elim, Reader.ending, if_pos hends, if_pos hnone]
    rfl
  | waiting hends hfree hshort =>
    refine ⟨none, .pending hfree hshort, ?_⟩
    rw [settled, Option.elim, Reader.ending, hends]
    rfl

end

theorem comesTo_invocation (c : Connection) (address request : String) :
    (c.invocation address request).comesTo = c.outcome? address := by
  rw [Connection.invocation]
  cases c.outcome? address <;> rfl

theorem outcome?_accepted (address : String) (pieces : List (List UInt8)) (ends : Bool) :
    (Connection.accepted pieces ends).outcome? address
      = (({} : Reader).readAll maxLength ends pieces).outcome? address := by
  rw [Connection.outcome?]
  split <;> simp only [*, Reader.Ending.outcome?, said]

theorem outcome?_of_standing {address : String} {pieces : List (List UInt8)} {ends : Bool}
    {v : Option (Except LineFault String)} (h : Standing maxLength pieces.flatten v) :
    (Connection.accepted pieces ends).outcome? address = settled address pieces.flatten ends v := by
  rw [outcome?_accepted, Reader.readAll_empty h]
  rfl

/-- **What a call comes to depends on the bytes that come back, and not on the pieces.** It comes to
what they bring, and if they bring nothing yet it goes on waiting. -/
theorem comesTo_eq_iff_brings {address request : String} {peer : Peer} {nth : Nat}
    {pieces : List (List UInt8)} {ends : Bool} (h : peer nth (written request) = .accepted pieces ends)
    (o : Option Outcome) :
    (callee address peer nth request).comesTo = o ↔ Brings address pieces.flatten ends o := by
  obtain ⟨v, hv⟩ := Standing.exists_standing maxLength pieces.flatten
  rw [callee, dial_connection, comesTo_invocation, h, outcome?_of_standing hv]
  constructor
  · rintro rfl
    exact brings_of_standing hv
  · intro hbrings
    obtain ⟨v', hv', rfl⟩ := hbrings.exists_standing
    rw [hv.unique hv']

/-- A letter of two bytes comes in two pieces, and the carriage return away from its line feed. -/
theorem comesTo_letter_in_pieces :
    (callee "127.0.0.1:4000" (fun _ _ => .accepted [[0xc3], [0xa9, 13], [10, 0x61]] true) 0
      "ping").comesTo = some (.response "é") := by
  have hbytes : [[0xc3], [0xa9, 13], [10, 0x61]].flatten
      = ([0xc3, 0xa9, 13] : List UInt8) ++ lineFeed :: [0x61] := rfl
  exact (comesTo_eq_iff_brings rfl _).mpr
    (.line hbytes (by decide) (by decide) (.text (by decide)))

end Line

end Switchboard
