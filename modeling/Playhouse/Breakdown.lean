/-
Module: Playhouse.Breakdown
Purpose: Failures that come from the surroundings of the program: from files, from
  outer streams, and from the conversion of values.
Main exports: Breakdown, Breakdown.badValue, Breakdown.undecodable, Breakdown.unencodable,
  undecodable?
-/

namespace Playhouse

/-- A failure that is no report of this program: the name of its kind and its
wording. -/
structure Breakdown where
  kind : String
  message : String
deriving Repr, Inhabited, DecidableEq

/-- The failure of a value that cannot be used. -/
def Breakdown.badValue (message : String) : Breakdown :=
  ⟨"ValueError", message⟩

/-! ### Bytes that are no text -/

/-- The failure of a file that holds no text. -/
def Breakdown.undecodable (complaint : String) : Breakdown :=
  ⟨"UnicodeDecodeError", complaint⟩

/-- A byte that may follow in the code of a character. -/
def isContinuation (byte : UInt8) : Bool :=
  0x80 ≤ byte && byte ≤ 0xbf

/-- The tests that the bytes behind a leading byte have to pass. -/
def continuations? (lead : UInt8) : Option (List (UInt8 → Bool)) :=
  let between (least most : UInt8) (byte : UInt8) : Bool := least ≤ byte && byte ≤ most
  if lead < 0x80 then some []
  else if between 0xc2 0xdf lead then some [isContinuation]
  else if lead = 0xe0 then some [between 0xa0 0xbf, isContinuation]
  else if lead = 0xed then some [between 0x80 0x9f, isContinuation]
  else if between 0xe1 0xef lead then some [isContinuation, isContinuation]
  else if lead = 0xf0 then some [between 0x90 0xbf, isContinuation, isContinuation]
  else if lead = 0xf4 then some [between 0x80 0x8f, isContinuation, isContinuation]
  else if between 0xf1 0xf3 lead then some [isContinuation, isContinuation, isContinuation]
  else none

/-- The number of tests that the bytes pass, and whether a byte fails one.  Bytes
that are missing fail none. -/
def passTests : List (UInt8 → Bool) → List UInt8 → Nat × Bool
  | [], _ | _, [] => (0, false)
  | test :: tests, byte :: bytes =>
      if test byte then
        let (passed, failed) := passTests tests bytes
        (passed + 1, failed)
      else (0, true)

/-- The two digits of a byte in base sixteen. -/
def hexByte (byte : UInt8) : String :=
  let digit (value : Nat) : Char := "0123456789abcdef".toList.getD value '0'
  String.ofList [digit (byte.toNat / 16), digit (byte.toNat % 16)]

/-- The wording for bytes that are the code of no character.  They start at
`position`, and `passed` bytes behind the first one looked well. -/
def undecodableMessage (lead : UInt8) (position passed : Nat) (reason : String) : String :=
  let place :=
    if passed = 0 then "byte 0x" ++ hexByte lead ++ " in position " ++ toString position
    else "bytes in position " ++ toString position ++ "-" ++ toString (position + passed)
  "\x27utf-8\x27 codec can\x27t decode " ++ place ++ ": " ++ reason

/-- Why some bytes are no text, if they are none.  `skip` counts bytes that belong to
a character already read, and `position` the bytes in front. -/
def undecodableFrom (skip position : Nat) : List UInt8 → Option String
  | [] => none
  | lead :: rest =>
      match skip with
      | skip + 1 => undecodableFrom skip (position + 1) rest
      | 0 =>
          match continuations? lead with
          | none => some (undecodableMessage lead position 0 "invalid start byte")
          | some tests =>
              let (passed, failed) := passTests tests rest
              if failed then
                some (undecodableMessage lead position passed "invalid continuation byte")
              else if passed < tests.length then
                some (undecodableMessage lead position passed "unexpected end of data")
              else undecodableFrom tests.length (position + 1) rest

/-- Why some bytes are no text, if they are none. -/
def undecodable? (bytes : List UInt8) : Option String :=
  undecodableFrom 0 0 bytes

example : undecodable? [0x68, 0xe9, 0x72, 0x6f, 0x73] =
    some "\x27utf-8\x27 codec can\x27t decode byte 0xe9 in position 1: invalid continuation byte" :=
  by decide +kernel

/-! ### Text that no stream takes -/

/-- The failure to write a code point that stands for no character. -/
def Breakdown.unencodable (point : Nat) : Breakdown :=
  let digits := String.ofList (Nat.toDigits 16 point)
  ⟨"UnicodeEncodeError",
    "\x27utf-8\x27 codec can\x27t encode character \x27\\u" ++ digits ++
      "\x27 in position 0: surrogates not allowed"⟩

end Playhouse
