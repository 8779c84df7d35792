/-
Module: Playhouse.Performance.Output
Purpose: Where the numbers and characters go that a performance prints.
Main exports: Piece, Refusal, Sink, Piece.text, Sink.text, Sink.stream
-/
import Playhouse.Performance.Mishap
import Playhouse.Text.CodePoints

namespace Playhouse

open Text

/-- What a play hands over to be printed: a number, or a character by its code. -/
inductive Piece where
  | number (value : Int)
  | character (code : Nat)
deriving Repr, Inhabited, DecidableEq

/-- Why a piece is not taken: a number is too long to be written, or there is a reason
elsewhere. -/
inductive Refusal where
  | tooLong
  | elsewhere (breakdown : Breakdown)
deriving Repr, Inhabited, DecidableEq

/-- The mishap that a refusal is. -/
def Refusal.cause : Refusal → MishapCause
  | tooLong => .digitLimit
  | elsewhere breakdown => .refused breakdown

/-- Somebody who takes what is printed, and writes a text for every piece.  The
surroundings may be different afterwards, whether the piece was taken or not. -/
structure Sink (σ : Type) where
  take : Piece → σ → Except Refusal CodePoints × σ

/-- A piece as text. -/
def Piece.text : Piece → Except Refusal CodePoints
  | number value =>
      match writeInteger value with
      | .ok digits => .ok (CodePoints.ofList digits)
      | .error _ => .error .tooLong
  | character code => .ok [code]

/-- The sink that collects all pieces as text. -/
def Sink.text {σ : Type} : Sink σ :=
  ⟨fun piece outside => (piece.text, outside)⟩

/-- The sink that hands text on to a stream, which has no code for some characters. -/
def Sink.stream {σ : Type} (encodes : Nat → Bool) : Sink σ where
  take piece outside :=
    match piece.text with
    | .error refusal => (.error refusal, outside)
    | .ok text =>
        match text.find? fun point => !encodes point with
        | some point => (.error (.elsewhere (.unencodable point)), outside)
        | none => (.ok text, outside)

end Playhouse
