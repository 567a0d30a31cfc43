import Sift.Pattern.CharClass

/-! # Patterns

A pattern describes where in a text a match may start and end.  Between two characters of a text,
before the first and after the last, is a *spot*; a pattern relates the spots where a match starts
to those where it ends.  `Pattern.ends` computes the ends of a whole set of starts at once, so the
work grows with the length of the text and never with the number of ways to match it. -/

namespace Sift

/-- A condition on a spot that reads no character. -/
inductive Look where
  | startText
  | endText
  | startLine
  | endLine
  /-- The start of a line, where lines may also end in a carriage return. -/
  | startReturnLine
  | endReturnLine
  /-- A condition on whether the characters on both sides belong to words. -/
  | word (isWord : Char → Bool) (accepts : Bool → Bool → Bool)

inductive Pattern where
  | empty
  | chars (charClass : CharClass)
  | look (look : Look)
  /-- A pattern whose match is kept. -/
  | group (p : Pattern)
  | concat (p q : Pattern)
  | alt (p q : Pattern)
  /-- A pattern at least `min` times in a row and at most `max` times, if that is given. -/
  | times (p : Pattern) (min : Nat) (max : Option Nat)

/-- A place between the characters of a text: how many stand before it, the last of them, and
    those that follow. -/
structure Spot where
  place : Nat
  before : Option Char
  after : List Char

namespace Spot

/-- The spot behind the next character, if that is in a class. -/
def step? (holds : Char → Bool) (spot : Spot) : Option Spot :=
  match spot.after with
  | [] => none
  | c :: rest => if holds c then some ⟨spot.place + 1, some c, rest⟩ else none

/-- All spots of a text from one on. -/
def onward (place : Nat) (before : Option Char) : List Char → List Spot
  | [] => [⟨place, before, []⟩]
  | c :: rest => ⟨place, before, c :: rest⟩ :: onward (place + 1) (some c) rest

/-- All spots of a text. -/
def all (text : List Char) : List Spot := onward 0 none text

/-- The union of two lists of spots of one text, both in increasing order. -/
def merge : List Spot → List Spot → List Spot
  | [], bs => bs
  | as, [] => as
  | a :: as, b :: bs =>
    if a.place < b.place then a :: merge as (b :: bs)
    else if b.place < a.place then b :: merge (a :: as) bs
    else a :: merge as bs

/-- The spots of one list that are not in another, both in increasing order. -/
def without : List Spot → List Spot → List Spot
  | [], _ => []
  | as, [] => as
  | a :: as, b :: bs =>
    if a.place < b.place then a :: without as (b :: bs)
    else if b.place < a.place then without (a :: as) bs
    else without as bs

end Spot

/-- Whether a condition holds at a spot. -/
def Look.holds (look : Look) (spot : Spot) : Bool :=
  match look with
  | .startText => spot.before.isNone
  | .endText => spot.after.isEmpty
  | .startLine => spot.before.isNone || spot.before == some '\n'
  | .endLine => spot.after.isEmpty || spot.after.head? == some '\n'
  | .startReturnLine =>
    spot.before.isNone || spot.before == some '\n' ||
      -- between a carriage return and a line feed no line starts
      spot.before == some '\r' && spot.after.head? != some '\n'
  | .endReturnLine =>
    spot.after.isEmpty || spot.after.head? == some '\r' ||
      spot.after.head? == some '\n' && spot.before != some '\r'
  | .word isWord accepts => accepts (spot.before.any isWord) (spot.after.head?.any isWord)

namespace Pattern

/-- Repeats a step some times, or until nothing is left. -/
def iterate (step : List Spot → List Spot) : Nat → List Spot → List Spot
  | _, [] => []
  | 0, spots => spots
  | count + 1, spots => iterate step count (step spots)

/-- All spots that up to `rounds` steps reach from `fresh`, besides those already `reached`. -/
def spread (step : List Spot → List Spot) : Nat → List Spot → List Spot → List Spot
  | _, reached, [] => reached
  | 0, reached, _ => reached
  | rounds + 1, reached, fresh =>
    -- a spot that was reached before cannot lead anywhere new
    let next := Spot.without (step fresh) reached
    spread step rounds (Spot.merge reached next) next

/-- The spots where matches end that start at one of the given spots. -/
def ends : Pattern → List Spot → List Spot
  | .empty, spots => spots
  | .chars charClass, spots => spots.filterMap (Spot.step? charClass.contains)
  | .look condition, spots => spots.filter condition.holds
  | .group p, spots => p.ends spots
  | .concat p q, spots => q.ends (p.ends spots)
  | .alt p q, spots => Spot.merge (p.ends spots) (q.ends spots)
  | .times p min max, spots =>
    let start := iterate p.ends min spots
    -- from the first start on there are no more spots than this, so further rounds find nothing new
    let room := match start with
      | [] => 0
      | spot :: _ => spot.after.length + 1
    let rounds := match max with
      | some max => Nat.min (max - min) room
      | none => room
    spread p.ends rounds start start

/-- Whether a pattern has a match somewhere in a text. -/
def search (p : Pattern) (text : String) : Bool :=
  !(p.ends (Spot.all text.toList)).isEmpty

/-- The pattern of some patterns in a row. -/
def sequence (ps : List Pattern) : Pattern := ps.foldr .concat .empty

end Pattern

end Sift
