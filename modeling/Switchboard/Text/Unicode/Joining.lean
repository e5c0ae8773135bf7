import Switchboard.Text.Unicode.Runs
/-!
# Joining

How letters of cursive scripts join with those next to them.

* `Joining` — on which sides a letter joins.
* `joining` — the sides of a character.
-/

namespace Switchboard.Text

/-- On which sides a letter joins. -/
inductive Joining
  | none
  | both
  | left
  | right
  /-- It is passed over: letters on either side of it join. -/
  | transparent
  deriving DecidableEq, Repr, Inhabited

def joinings : List Joining := [.none, .both, .left, .right, .transparent]

/-- Code points with the number of their sides. -/
def joiningClasses : Runs := .classified
  "ad 0 1 4 252 0 70 4 113 0 7 4 107 0 2d 4 1 0 1 4 1 0 2 4 1 0 2 4 1 0 1 4 48 0 b 4 1 0 1 4 3 0
  1 1 1 0 4 3 1 1 1 3 1 1 1 3 5 1 4 3 d 1 1 0 7 1 1 3 2 1 15 4 e 0 2 1 1 4 3 3 1 0 3 3 10 1 12 3
  26 1 1 3 2 1 9 3 1 1 1 3 1 1 1 3 2 1 2 3 1 0 1 3 7 4 2 0 6 4 2 0 2 4 1 0 4 4 2 3 a 0 3 1 2 0 1
  1 f 0 1 4 1 3 1 4 3 1 5 3 4 1 1 3 9 1 1 3 1 1 1 3 1 1 1 3 2 1 1 3 1b 4 2 0 1 3 b 1 3 3 f 1 2 3
  4 1 1 3 1 1 2 3 3 1 2 3 6 1 26 0 b 4 19 0 21 1 9 4 9 0 1 4 18 0 4 4 1 0 9 4 1 0 3 4 1 0 5 4 12
  0 1 3 5 1 2 3 1 1 1 3 a 1 1 3 1 1 3 3 3 4 4 0 1 1 1 0 4 1 1 0 1 3 1 1 2 3 5 0 13 3 3 0 1 1 2 0
  5 1 1 3 1 1 7 0 9 4 a 1 3 3 1 0 1 3 2 1 2 3 6 1 1 3 f 1 1 0 18 4 1 0 20 4 37 0 1 4 1 0 1 4 4 0
  8 4 4 0 1 4 3 0 7 4 a 0 2 4 1d 0 1 4 3a 0 1 4 4 0 4 4 8 0 1 4 14 0 2 4 1a 0 1 4 2 0 2 4 39 0 1
  4 4 0 2 4 4 0 2 4 2 0 3 4 3 0 1 4 1e 0 2 4 3 0 1 4 b 0 2 4 39 0 1 4 4 0 5 4 1 0 2 4 4 0 1 4 14
  0 2 4 16 0 6 4 1 0 1 4 3a 0 1 4 2 0 1 4 1 0 4 4 8 0 1 4 7 0 2 4 b 0 2 4 1e 0 1 4 3d 0 1 4 c 0
  1 4 32 0 1 4 3 0 1 4 37 0 1 4 1 0 3 4 5 0 3 4 1 0 4 4 7 0 2 4 b 0 2 4 1d 0 1 4 3a 0 1 4 2 0 1
  4 6 0 1 4 5 0 2 4 14 0 2 4 1c 0 2 4 39 0 2 4 4 0 4 4 8 0 1 4 14 0 2 4 1d 0 1 4 48 0 1 4 7 0 3
  4 1 0 1 4 5a 0 1 4 2 0 7 4 c 0 8 4 62 0 1 4 2 0 9 4 b 0 7 4 49 0 2 4 1b 0 1 4 1 0 1 4 1 0 1 4
  37 0 e 4 1 0 5 4 1 0 2 4 5 0 b 4 1 0 24 4 9 0 1 4 66 0 4 4 1 0 6 4 1 0 2 4 2 0 2 4 19 0 2 4 4
  0 3 4 10 0 4 4 d 0 1 4 2 0 2 4 6 0 1 4 f 0 1 4 2bf 0 3 4 3b2 0 3 4 1d 0 2 4 1e 0 2 4 1e 0 2 4
  40 0 2 4 1 0 7 4 8 0 1 4 2 0 b 4 9 0 1 4 29 0 1 1 3 0 3 4 1 0 1 4 10 0 59 1 c 0 2 4 22 1 1 4 1
  1 75 0 3 4 4 0 2 4 9 0 1 4 6 0 3 4 db 0 2 4 2 0 1 4 3a 0 1 4 1 0 7 4 1 0 1 4 1 0 1 4 2 0 8 4 6
  0 a 4 2 0 1 4 30 0 2e 4 2 0 c 4 14 0 4 4 30 0 1 4 1 0 5 4 1 0 1 4 5 0 1 4 28 0 9 4 c 0 2 4 20
  0 4 4 2 0 2 4 1 0 3 4 38 0 1 4 1 0 2 4 3 0 1 4 1 0 3 4 3a 0 8 4 2 0 2 4 98 0 3 4 1 0 d 4 1 0 7
  4 4 0 1 4 6 0 1 4 3 0 2 4 c6 0 40 4 20b 0 1 4 2 0 2 4 1a 0 5 4 31 0 5 4 5 0 6 4 60 0 21 4 bfe
  0 3 4 8d 0 1 4 60 0 20 4 22a 0 4 4 6b 0 2 4 75d4 0 4 4 1 0 a 4 20 0 2 4 50 0 2 4 110 0 1 4 3 0
  1 4 4 0 1 4 19 0 2 4 5 0 1 4 13 0 32 1 1 2 51 0 2 4 1a 0 12 4 d 0 1 4 26 0 8 4 19 0 b 4 2e 0 3
  4 30 0 1 4 2 0 4 4 2 0 2 4 27 0 1 4 43 0 6 4 2 0 2 4 2 0 2 4 c 0 1 4 8 0 1 4 2f 0 1 4 33 0 1 4
  1 0 3 4 2 0 2 4 5 0 2 4 1 0 1 4 2a 0 2 4 8 0 1 4 ee 0 1 4 2 0 1 4 4 0 1 4 4f30 0 1 4 2e1 0 10
  4 10 0 10 4 cf 0 1 4 f9 0 3 4 201 0 1 4 e2 0 1 4 95 0 5 4 686 0 3 4 1 0 2 4 5 0 4 4 28 0 3 4 4
  0 1 4 80 0 5 1 1 3 1 0 1 3 1 0 2 3 2 0 1 2 5 3 4 1 1 2 5 1 1 3 3 1 1 3 2 0 1 3 2 4 4 0 4 1 1 3
  90 0 1 1 1 3 1 1 3 3 3 1 1 3 2 1 1 3 1 1 2 3 1 1 1 3 17 0 4 3 2 1 151 0 1 2 21 1 1 3 1 1 4 4
  41 0 5 4 13d 0 2 4 15 0 1 3 2 1 1 0 2 1 32 0 6 4 30 0 3 1 1 3 11 1 1 0 b 4 3 1 1 3 1b 0 4 1 2
  3 c 1 4 4 2a 0 1 1 1 0 2 1 3 3 1 0 1 1 2 3 2 1 1 3 2 1 1 0 1 1 2 3 1 1 4 0 1 3 1 1 1 2 35 0 1
  4 36 0 f 4 29 0 1 4 2 0 2 4 a 0 3 4 31 0 4 4 2 0 2 4 7 0 1 4 3d 0 3 4 24 0 5 4 1 0 8 4 3e 0 1
  4 c 0 2 4 34 0 9 4 a 0 4 4 2 0 1 4 5f 0 3 4 2 0 1 4 1 0 2 4 6 0 1 4 2 0 1 4 9d 0 1 4 3 0 8 4
  15 0 2 4 39 0 2 4 3 0 1 4 25 0 7 4 3 0 5 4 46 0 6 4 d 0 1 4 1 0 1 4 1 0 1 4 e 0 2 4 55 0 8 4 2
  0 3 4 1 0 1 4 17 0 1 4 54 0 6 4 1 0 1 4 4 0 2 4 1 0 2 4 ee 0 4 4 6 0 2 4 1 0 2 4 1b 0 2 4 55 0
  8 4 2 0 1 4 1 0 2 4 6a 0 1 4 1 0 1 4 2 0 6 4 1 0 1 4 65 0 1 4 1 0 1 4 2 0 4 4 1 0 5 4 103 0 9
  4 1 0 2 4 100 0 2 4 1 0 1 4 4 0 1 4 90 0 4 4 2 0 2 4 4 0 1 4 20 0 a 4 28 0 6 4 2 0 4 4 8 0 1 4
  9 0 6 4 2 0 3 4 2e 0 d 4 1 0 2 4 c6 0 1 4 1 0 3 4 1 0 1 4 c9 0 7 4 1 0 6 4 1 0 1 4 52 0 16 4 2
  0 7 4 1 0 2 4 1 0 2 4 7a 0 6 4 3 0 1 4 1 0 2 4 1 0 7 4 1 0 1 4 48 0 2 4 3 0 1 4 1 0 1 4 15b 0
  2 4 b 0 2 4 34 0 5 4 5 0 1 4 1 0 1 4 17 0 1 4 14d5 0 11 4 6 0 f 4 2cc8 0 c 4 3 0 3 4 9c0 0 5 4
  3b 0 7 4 418 0 1 4 3f 0 4 4 51 0 1 4 4cb8 0 2 4 1 0 4 4 125c 0 2e 4 2 0 17 4 220 0 3 4 9 0 10
  4 2 0 7 4 1e 0 4 4 94 0 3 4 7bb 0 37 4 4 0 32 4 8 0 1 4 e 0 1 4 16 0 5 4 1 0 f 4 550 0 7 4 1 0
  11 4 2 0 7 4 1 0 2 4 1 0 5 4 64 0 1 4 a0 0 7 4 177 0 1 4 3d 0 4 4 1fc 0 4 4 fe 0 2 4 f3 0 1 4
  2 0 1 4 7 0 2 4 5 0 1 4 1da 0 7 4 29 0 44 1 8 4 c16b5 0 1 4 1e 0 60 4 80 0 f0 4"

def joining (c : Char) : Joining := (joinings[joiningClasses.classOf c.toNat]?).getD .none

end Switchboard.Text
