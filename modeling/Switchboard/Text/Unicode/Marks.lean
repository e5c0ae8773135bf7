import Switchboard.Text.Unicode.Runs
/-!
# Marks

Characters that go with the character before them, and the order among several of them.

* `isMark` — is the character a mark?
* `combiningClass` — the place that a mark takes among others; zero for what starts anew.
* `isVirama` — does the mark take away the vowel of a consonant?
-/

namespace Switchboard.Text

/-- Code points of the categories Mn, Mc and Me. -/
def marks : Runs := .alternating
  "300 70 113 7 107 2d 1 1 1 2 1 2 1 1 48 b 30 15 10 1 65 7 2 6 2 2 1 4 23 1 1e 1b 5b b 3a 9 9 1
  18 4 1 9 1 3 1 5 2b 3 3b 9 2a 18 1 21 36 3 1 12 1 7 a 2 1d 3 38 1 1 7 2 2 2 3 9 1 a 2 1a 1 2 3
  38 1 1 5 4 2 2 3 3 1 1e 2 3 1 b 3 38 1 1 8 1 3 1 3 14 2 16 6 1 3 38 1 1 7 2 2 2 3 7 3 a 2 1e 1
  3b 5 3 3 1 4 9 1 28 5 37 1 1 7 1 3 1 4 7 2 b 2 1d 3 38 1 1 7 1 3 1 4 7 2 b 2 f 1 c 4 37 2 1 7
  1 3 1 4 9 1 a 2 1d 3 46 1 4 6 1 1 1 8 12 2 3d 1 2 7 c 8 62 1 2 9 b 7 49 2 1b 1 1 1 1 1 4 2 31
  14 1 2 5 b 1 24 9 1 64 14 17 4 4 3 1 3 2 7 3 4 d c 1 1 a 4 2bf 3 3b2 4 1c 3 1d 2 1e 2 40 20 9
  1 2d 3 1 1 75 2 22 1 76 c 4 c db 5 39 a 1 1d 2 1 30 2e 2 c 14 5 2f 11 26 9 c 3 1e d 38 e 30 14
  98 3 1 15 4 1 6 1 2 3 c6 40 2d0 21 bfe 3 8d 1 60 20 22a 6 69 2 75d4 4 1 a 20 2 50 2 110 1 3 1
  4 1 17 5 4 1 53 2 32 12 1a 12 d 1 26 8 19 d 2c 4 2f e 24 1 43 e c 1 8 2 2d 3 32 1 1 3 2 2 5 2
  1 1 29 5 5 2 ec 8 1 2 4f30 1 2e1 10 10 10 3cd 1 e2 1 95 5 686 3 1 2 5 4 28 3 4 1 a5 2 23d 4 41
  5 13d 2 4d 6 46 b 31 4 7a 3 35 f 29 1 2 2 a 4 2d b 7 1 3d 3 24 e 10 2 2c 1 c 3 30 e 8 4 1 2 5c
  c 6 1 2 1 9d c 15 4 37 2 1 7 2 2 2 3 9 1 a 2 2 7 3 5 43 9 1 1 2 1 1 4 1 5 1 1 e 2 52 12 17 1
  51 14 eb 7 2 9 1b 2 52 11 6a d 65 f 100 f f5 6 1 2 2 4 1 1 1 2 8d 7 2 7 3 1 1c a 28 7 1 4 8 1
  9 b 2e 10 c6 8 c7 8 1 8 52 16 1 e 7a 6 3 1 1 2 1 7 1 1 42 5 1 2 1 5 15b 4 9 2 1 1 30 7 3 5 17
  1 14e5 1 6 f 2cc8 12 9c0 5 3b 7 418 1 1 37 7 4 51 1 b 2 4cab 2 1261 2e 2 17 21e 5 3 6 8 8 2 7
  1e 4 94 3 7bb 37 4 32 8 1 e 1 16 5 1 f 550 7 1 11 2 7 1 2 1 5 64 1 a0 7 177 1 3d 4 1fc 4 fe 2
  f3 1 2 1 7 2 5 1 1da 7 6d 7 c17b5 f0"

/-- Code points with their canonical combining class. -/
def combiningClasses : Runs := .classified
  "300 0 15 e6 1 e8 4 dc 1 e8 1 d8 5 dc 2 ca 4 dc 2 ca b dc 5 1 4 dc 8 e6 1 f0 1 e6 3 dc 3 e6 2
  dc 1 0 3 e6 4 dc 1 e6 1 e8 2 dc 1 e6 1 e9 2 ea 1 e9 2 ea 1 e9 d e6 113 0 5 e6 109 0 1 dc 4 e6
  1 dc 3 e6 1 de 1 dc 6 e6 6 dc 2 e6 1 dc 2 e6 1 de 1 e4 1 e6 1 a 1 b 1 c 1 d 1 e 1 f 1 10 1 11
  1 12 2 13 1 14 1 15 1 16 1 0 1 17 1 0 1 18 1 19 1 0 1 e6 1 dc 1 0 1 12 48 0 8 e6 1 1e 1 1f 1
  20 30 0 1 1b 1 1c 1 1d 1 1e 1 1f 1 20 1 21 1 22 2 e6 2 dc 5 e6 1 dc 2 e6 1 dc 10 0 1 23 65 0 7
  e6 2 0 4 e6 1 dc 1 e6 2 0 2 e6 1 0 1 dc 2 e6 1 dc 23 0 1 24 1e 0 1 e6 1 dc 2 e6 1 dc 2 e6 3 dc
  1 e6 2 dc 1 e6 1 dc 3 e6 1 dc 1 e6 1 dc 1 e6 1 dc 1 e6 1 dc 2 e6 a0 0 7 e6 1 dc 1 e6 9 0 1 dc
  18 0 4 e6 1 0 9 e6 1 0 3 e6 1 0 5 e6 2b 0 3 dc 3b 0 2 e6 3 dc 4 e6 2a 0 5 e6 5 dc e e6 1 0 1
  dc 2 e6 1 dc 2 e6 1 dc 3 e6 3 dc 1 1b 1 1c 1 1d 3 e6 1 dc 2 e6 2 dc 5 e6 3c 0 1 7 10 0 1 9 3 0
  1 e6 1 dc 2 e6 67 0 1 7 10 0 1 9 30 0 1 e6 3d 0 1 7 10 0 1 9 6e 0 1 7 10 0 1 9 6e 0 1 7 10 0 1
  9 7f 0 1 9 6e 0 1 7 10 0 1 9 7 0 1 54 1 5b 65 0 1 7 10 0 1 9 6d 0 2 9 10 0 1 9 7c 0 1 9 6d 0 2
  67 1 9 d 0 4 6b 6c 0 2 76 1 9 d 0 4 7a 4c 0 2 dc 1b 0 1 dc 1 0 1 dc 1 0 1 d8 37 0 1 81 1 82 1
  0 1 84 5 0 4 82 2 0 1 82 1 0 2 e6 1 9 1 0 2 e6 3e 0 1 dc 70 0 1 7 1 0 2 9 52 0 1 dc 2cf 0 3 e6
  3b4 0 2 9 1e 0 1 9 9d 0 1 9 a 0 1 e6 cb 0 1 e4 8f 0 1 de 1 e6 1 dc db 0 1 e6 1 dc 47 0 1 9 14
  0 8 e6 2 0 1 dc 30 0 5 e6 6 dc 2 e6 1 dc 1 0 2 dc 2 e6 2 dc 5 e6 1 dc 12 e6 1 dc 2 0 6 e6 1 dc
  4 e6 1 ea 48 0 1 7 f 0 1 9 26 0 1 e6 1 dc 7 e6 36 0 2 9 3a 0 1 7 b 0 2 9 43 0 1 7 98 0 3 e6 1
  0 1 1 5 dc 2 e6 4 dc 1 e6 1 0 7 1 4 0 1 dc 6 0 1 e6 3 0 2 e6 c6 0 2 e6 1 dc 7 e6 1 dc 2 e6 1
  ea 1 d6 1 dc 1 ca 25 e6 1 e8 2 e4 1 dc 1 da 1 e6 1 e9 1 dc 1 e6 1 dc 2d0 0 2 e6 2 1 4 e6 3 1 2
  e6 4 0 1 e6 3 0 2 1 1 e6 1 dc 1 e6 2 1 4 dc 1 e6 bfe 0 3 e6 8d 0 1 9 60 0 20 e6 22a 0 1 da 1
  e4 1 e8 1 de 2 e0 69 0 2 8 75d4 0 1 e6 4 0 a e6 20 0 2 e6 50 0 2 e6 114 0 1 9 25 0 1 9 97 0 1
  9 1b 0 12 e6 39 0 3 dc 25 0 1 9 5f 0 1 7 c 0 1 9 ef 0 1 e6 1 0 2 e6 1 dc 2 0 2 e6 5 0 2 e6 1 0
  1 e6 34 0 1 9 f6 0 1 9 4f30 0 1 1a 301 0 7 e6 7 dc 2 e6 3cd 0 1 dc e2 0 1 dc 95 0 5 e6 692 0 1
  dc 1 0 1 e6 28 0 1 e6 1 1 1 dc 4 0 1 9 a5 0 1 e6 1 dc 23d 0 4 e6 41 0 5 e6 13d 0 2 e6 4d 0 2
  dc 1 0 3 dc 46 0 2 dc 3 e6 1 dc 1 e6 4 dc 31 0 1 e6 1 dc 1 e6 1 dc c0 0 1 9 29 0 1 9 e 0 1 9
  39 0 1 9 1 7 45 0 3 e6 30 0 2 9 3e 0 1 7 4c 0 1 9 9 0 1 7 6a 0 1 9 1 7 b2 0 1 7 1 9 50 0 2 7
  10 0 1 9 18 0 7 e6 3 0 5 e6 59 0 3 9 71 0 1 9 3 0 1 7 17 0 1 e6 63 0 1 9 1 7 fb 0 1 9 1 7 7e 0
  1 9 76 0 1 9 1 7 73 0 1 9 10d 0 1 9 1 7 102 0 2 9 4 0 1 7 9c 0 1 9 53 0 1 9 12 0 1 9 51 0 1 9
  1a5 0 1 9 102 0 1 7 1 0 2 9 51 0 1 9 1a9 0 2 9 41ec 0 1 9 9c0 0 5 1 3b 0 7 e6 4b9 0 2 6 4cac 0
  1 1 14c6 0 2 d8 3 1 3 0 1 e2 5 d8 8 0 8 dc 2 0 5 e6 2 dc 1e 0 4 e6 94 0 3 e6 dbb 0 7 e6 1 0 11
  e6 2 0 7 e6 1 0 2 e6 1 0 5 e6 64 0 1 e6 a0 0 7 e6 177 0 1 e6 3d 0 4 e6 1fc 0 2 e8 1 dc 1 e6 fe
  0 1 e6 1 dc f3 0 1 e6 2 0 1 e6 7 0 2 e6 5 0 1 e6 1da 0 7 dc 6d 0 6 e6 1 7"

def isMark (c : Char) : Bool := 0x300 ≤ c.toNat && marks.contains c

def combiningClass (c : Char) : Nat :=
  if c.toNat < 0x300 then 0 else combiningClasses.classOf c.toNat

/-- Does the mark take away the vowel of a consonant? -/
def isVirama (c : Char) : Bool := combiningClass c == 9

end Switchboard.Text
