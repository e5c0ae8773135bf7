import Switchboard.Proofs.Line.Reading
import Switchboard.Proofs.Text.Parts
/-!
# What a peer gets of a line

A call sends its request as its bytes and a line feed. A peer that reads lines takes the first line
feed for the end of the line, and drops a carriage return in front of it. So it gets the parts of the
request between the line feeds that are in it, each without a carriage return at its end. It gets the
request itself, and nothing else, if there is no line feed in the request and no carriage return at its
end.

* `linesOf` — the lines that a peer reads from a connection; `readAll_eq_head?_linesOf` — the first is
  the one that a reader gets, `linesOf_append` — and the next come from the bytes behind it.
* `linesOf_written` — the lines that a peer reads of a request.
* `IsOneLine` — the requests that travel as they are; `delivered_iff` — exactly those do, for every peer
  that goes by the lines that it reads.
* `Peer.echo`, `comesTo_echo` — a peer that sends back what it gets, and what a call of it comes to.
* `read_as_others` — two requests that do not travel as they are.
-/

namespace Switchboard.Line

/-! ## The lines of a connection -/

/-- The lines of the bytes between line feeds. What is behind the last line feed is one if the connection
ends there, unless it is nothing or a carriage return only. -/
def linesOfParts (ends : Bool) : List (List UInt8) → List (Except LineFault String)
  | [] => []
  | [last] =>
    if ends = true ∧ ¬ (last = [] ∨ last = [carriageReturn]) then [lineOf last] else []
  | part :: next :: rest => lineOf part :: linesOfParts ends (next :: rest)

/-- The lines that a peer reads from a connection that brings these bytes, however long they are. -/
def linesOf (ends : Bool) (bytes : List UInt8) : List (Except LineFault String) :=
  linesOfParts ends (bytes.splitOn lineFeed)

section

variable {ends : Bool}

theorem linesOfParts_cons (part : List UInt8) {parts : List (List UInt8)} (h : parts ≠ []) :
    linesOfParts ends (part :: parts) = lineOf part :: linesOfParts ends parts := by
  cases parts with
  | nil => exact absurd rfl h
  | cons next rest => rfl

/-- With nothing behind the last line feed, the lines are those in front of it. -/
theorem linesOfParts_concat_nil (parts : List (List UInt8)) :
    linesOfParts ends (parts ++ [[]]) = parts.map lineOf := by
  induction parts with
  | nil =>
    rw [List.nil_append, linesOfParts, if_neg fun h => h.2 (.inl rfl)]
    rfl
  | cons part rest ih =>
    have hne : rest ++ [[]] ≠ [] := List.append_ne_nil_of_right_ne_nil rest (List.cons_ne_nil _ _)
    rw [List.cons_append, linesOfParts_cons part hne, ih, List.map_cons]

/-- Behind a line the peer goes on as if the connection began there. -/
theorem linesOf_append {front : List UInt8} (hfree : lineFeed ∉ front) (rest : List UInt8) :
    linesOf ends (front ++ lineFeed :: rest) = lineOf front :: linesOf ends rest := by
  rw [linesOf, List.splitOn_append_cons_self_of_not_mem hfree,
    linesOfParts_cons front (List.splitOn_ne_nil lineFeed rest)]
  rfl

theorem linesOf_of_free {bytes : List UInt8} (hfree : lineFeed ∉ bytes) :
    linesOf ends bytes
      = if ends = true ∧ ¬ (bytes = [] ∨ bytes = [carriageReturn]) then [lineOf bytes] else [] := by
  rw [linesOf, List.splitOn_eq_singleton hfree, linesOfParts]

/-- The first line of a peer is the line of a reader, which only has to take lines that are so long. -/
theorem readAll_eq_head?_linesOf {limit : Nat} {pieces : List (List UInt8)}
    (hlimit : pieces.flatten.length ≤ limit) :
    ({} : Reader).readAll limit ends pieces
      = match (linesOf ends pieces.flatten).head? with
        | some line => .done line
        | none => if ends then .closed else .waiting := by
  obtain ⟨v, hv⟩ := Standing.exists_standing limit pieces.flatten
  rw [Reader.readAll_empty hv]
  cases hv with
  | line heq hfree _ => rw [heq, linesOf_append hfree]; rfl
  | tooLong hlong _ => exact absurd hlimit (Nat.not_le_of_lt hlong)
  | pending hfree _ =>
    rw [linesOf_of_free hfree, Option.elim, Reader.ending]
    cases ends with
    | false => rfl
    | true =>
      by_cases hnone : pieces.flatten = [] ∨ pieces.flatten = [carriageReturn]
      · rw [if_pos rfl, if_pos hnone, if_neg fun h => h.2 hnone]
        rfl
      · rw [if_pos rfl, if_neg hnone, if_pos ⟨rfl, hnone⟩]
        rfl

end

/-! ## The lines of a request -/

/-- The characters without a carriage return at their end. -/
def unreturned (part : List Char) : List Char :=
  if part.getLast? = some '\r' then part.dropLast else part

/-- The byte of a carriage return stands for that character only. -/
theorem getLast?_utf8_concat {c : Char} (hc : c ≠ '\r') (init : List Char) :
    (Text.utf8 (init ++ [c])).getLast? ≠ some carriageReturn := by
  intro hlast
  rw [Text.utf8, List.flatMap_append, List.flatMap_singleton,
    List.getLast?_append_of_ne_nil _ String.utf8EncodeChar_ne_nil] at hlast
  exact hc (Text.eq_of_mem_utf8EncodeChar (c := '\r') (by decide) (List.mem_of_getLast? hlast))

theorem withoutReturn_utf8 (part : List Char) :
    withoutReturn (Text.utf8 part) = Text.utf8 (unreturned part) := by
  obtain rfl | ⟨init, c, rfl⟩ := part.eq_nil_or_concat'
  · rfl
  rw [unreturned, List.getLast?_concat, List.dropLast_concat, withoutReturn]
  by_cases hc : c = '\r'
  · have hbytes : Text.utf8 (init ++ [c]) = Text.utf8 init ++ [carriageReturn] := by
      rw [Text.utf8, List.flatMap_append, hc]
      rfl
    rw [if_pos (congrArg some hc), hbytes, List.getLast?_concat, if_pos rfl, List.dropLast_concat]
  · rw [if_neg fun h => hc (Option.some.inj h), if_neg (getLast?_utf8_concat hc init)]

theorem lineOf_utf8 (part : List Char) :
    lineOf (Text.utf8 part) = .ok (String.ofList (unreturned part)) := by
  rw [lineOf_eq_ok_iff, bytesOf_eq_utf8, withoutReturn_utf8, String.toList_ofList]

theorem written_eq (request : String) :
    written request = Text.utf8 request.toList ++ [lineFeed] := by
  rw [written, bytesOf_eq_utf8]

/-- **What a peer reads of a request** are the parts between the line feeds that are in it. -/
theorem linesOf_written {request : String} {parts : List (List Char)} (ends : Bool)
    (h : Text.IsCut '\n' request.toList parts) :
    linesOf ends (written request)
      = parts.map fun part => .ok (String.ofList (unreturned part)) := by
  have hcut := (h.utf8 (by decide)).eq_splitOn
  have hsplit : (written request).splitOn lineFeed = parts.map Text.utf8 ++ [[]] := by
    rw [written_eq, List.splitOn_append_cons_self]
    exact congrArg (· ++ [[]]) hcut
  rw [linesOf, hsplit, linesOfParts_concat_nil, List.map_map]
  exact List.map_congr_left fun part _ => lineOf_utf8 part

/-- A request that travels as it is: one line, and nothing at its end that would be dropped. -/
structure IsOneLine (request : String) : Prop where
  feed : '\n' ∉ request.toList
  returned : request.toList.getLast? ≠ some '\r'

theorem isOneLine_iff (request : String) :
    IsOneLine request ↔ '\n' ∉ request.toList ∧ request.toList.getLast? ≠ some '\r' :=
  ⟨fun h => ⟨h.feed, h.returned⟩, fun h => ⟨h.1, h.2⟩⟩

instance (request : String) : Decidable (IsOneLine request) :=
  decidable_of_iff _ (isOneLine_iff request).symm

/-- Nothing is dropped of a text only if no carriage return is at its end. -/
theorem unreturned_eq_self_iff {part : List Char} :
    unreturned part = part ↔ part.getLast? ≠ some '\r' := by
  rw [unreturned]
  constructor
  · intro heq hlast
    rw [if_pos hlast] at heq
    have hlength := congrArg List.length heq
    rw [List.length_dropLast] at hlength
    have hpos := List.length_pos_of_mem (List.mem_of_getLast? hlast)
    omega
  · exact fun hlast => if_neg hlast

theorem linesOf_written_eq_singleton_iff (ends : Bool) (request : String) :
    linesOf ends (written request) = [.ok request] ↔ IsOneLine request := by
  have hcut := Text.isCut_splitOn '\n' request.toList
  rw [linesOf_written ends hcut]
  constructor
  · intro hone
    obtain ⟨part, hparts, hline⟩ := List.map_eq_singleton_iff.mp hone
    rw [hparts] at hcut
    have htext : part = request.toList := hcut.eq_singleton
    have hsame : unreturned part = part := by
      rw [← String.toList_ofList (l := unreturned part), Except.ok.inj hline, htext]
    refine ⟨?_, ?_⟩
    · rw [← htext]
      exact hcut.free part (List.mem_singleton_self part)
    · rw [← htext]
      exact unreturned_eq_self_iff.mp hsame
  · intro hline
    rw [List.splitOn_eq_singleton hline.feed, List.map_singleton,
      unreturned_eq_self_iff.mpr hline.returned, String.ofList_toList]

/-! ## Peers that go by lines -/

/-- A peer that goes by the lines that it reads, while the connection is open. -/
def Peer.byLines (serve : Nat → List (Except LineFault String) → Connection) : Peer :=
  fun nth arriving => serve nth (linesOf false arriving)

/-- A peer that sends back what it gets, and closes the connection. -/
def Peer.echo : Peer := fun _ arriving => .accepted [arriving] true

/-- What a call of such a peer comes to is the first of the lines that it sends, if they are not too
long. -/
theorem comesTo_echo {request : String} (hshort : (written request).length ≤ maxLength)
    {line : Except LineFault String} {rest : List (Except LineFault String)}
    (h : linesOf true (written request) = line :: rest) (address : String) (nth : Nat) :
    (callee address .echo nth request).comesTo = some (said line) := by
  have hlimit : [written request].flatten.length ≤ maxLength := by
    rw [List.flatten_singleton]
    exact hshort
  rw [callee, dial_connection, comesTo_invocation, Peer.echo, outcome?_accepted,
    readAll_eq_head?_linesOf hlimit, List.flatten_singleton, h]
  rfl

/-- **A request travels as it is if it is one line**, and no other does. What a call sends to a peer
that it can reach are lines, the parts of the request between line feeds, each without a carriage return
at its end; they are the request alone if it is one line. So a peer that goes by lines does for the
request what it does for that one line. -/
theorem delivered_iff (request : String) (ends : Bool) :
    (∃ parts, Text.IsCut '\n' request.toList parts ∧
      ∀ peer nth, (dial peer nth request).connection.isAccepted = true →
        linesOf ends (dial peer nth request).sent
          = parts.map fun part => .ok (String.ofList (unreturned part))) ∧
    (∀ peer nth, (dial peer nth request).connection.isAccepted = true →
      (linesOf ends (dial peer nth request).sent = [.ok request] ↔ IsOneLine request)) ∧
    ((∀ address serve nth, callee address (Peer.byLines serve) nth request
        = (serve nth [.ok request]).invocation address request) ↔ IsOneLine request) := by
  have hcut := Text.isCut_splitOn '\n' request.toList
  refine ⟨⟨_, hcut, fun peer nth hreached => ?_⟩, fun peer nth hreached => ?_, ?_⟩
  · rw [dial_sent hreached]
    exact linesOf_written ends hcut
  · rw [dial_sent hreached]
    exact linesOf_written_eq_singleton_iff ends request
  rw [← linesOf_written_eq_singleton_iff false request]
  constructor
  · intro hserved
    -- a peer that answers this one line, and else lets the call wait
    have hpicky := hserved "" (fun _ lines => if lines = [.ok request] then .refused "" else
      .accepted [] false) 0
    by_contra hne
    rw [if_pos rfl, callee, dial_connection, Peer.byLines, if_neg hne] at hpicky
    exact Option.some_ne_none 0 (congrArg Invocation.delay hpicky).symm
  · intro hone address serve nth
    rw [callee, dial_connection, Peer.byLines, hone]

example : IsOneLine "ping" ∧ IsOneLine "a\rb" ∧ ¬ IsOneLine "a\nb" ∧ ¬ IsOneLine "a\r" := by decide

/-- A line feed makes two requests of one, and a carriage return is dropped. So a peer that sends back
what it gets gives neither request back. -/
theorem read_as_others :
    linesOf true (dial .echo 0 "a\nb").sent = [.ok "a", .ok "b"] ∧
      (callee "127.0.0.1:4000" .echo 0 "a\nb").comesTo = some (.response "a") ∧
      linesOf true (dial .echo 0 "a\r").sent = [.ok "a"] ∧
      (callee "127.0.0.1:4000" .echo 0 "a\r").comesTo = some (.response "a") ∧
      ¬ ∀ peer nth request, (dial peer nth request).connection.isAccepted = true →
        linesOf true (dial peer nth request).sent = [.ok request] := by
  have htwo : linesOf true (written "a\nb") = [.ok "a", .ok "b"] :=
    linesOf_written true (Text.isCut_splitOn '\n' "a\nb".toList)
  have hdropped : linesOf true (written "a\r") = [.ok "a"] :=
    linesOf_written true (Text.isCut_splitOn '\n' "a\r".toList)
  refine ⟨htwo, comesTo_echo (by decide) htwo _ 0, hdropped, comesTo_echo (by decide) hdropped _ 0,
    fun h => ?_⟩
  exact nomatch htwo.symm.trans (h .echo 0 "a\nb" rfl)

end Switchboard.Line
