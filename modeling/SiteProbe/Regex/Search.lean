import SiteProbe.Regex.Class
import SiteProbe.Regex.Program

/-!
# Searching

A search goes through the text once. At each place it holds threads, each at an instruction and with what it noted of
the first group, the preferred ones in front; of two threads at one instruction the preferred one stays. The match
that starts first wins, and of those the preferred one. When a thread is done, those behind it are given up and none
start any more.
-/

namespace SiteProbe.Regex

/-- The ranges of the characters of words. -/
def unicodeWords : Array (Nat × Nat) := Class.words.toArray

/-- Whether a character belongs to words. -/
def Words.contains (w : Words) (c : Char) : Bool :=
  match w with
  | .ascii => c.isAlphanum || c = '_'
  | .unicode =>
    if c.toNat < 0x80 then c.isAlphanum || c = '_'
    else CodeSet.searchRanges unicodeWords c.toNat 0 unicodeWords.size

/-- Whether a condition holds between two characters, where there are none at the ends of the text. -/
def Look.holds (l : Look) (before after : Option Char) : Bool :=
  match l with
  | .textStart => before.isNone
  | .textEnd => after.isNone
  | .lineStart .lineFeed => before.all (· = '\n')
  | .lineEnd .lineFeed => after.all (· = '\n')
  | .lineStart .either => before.all fun c => c = '\n' || (c = '\r' && after != some '\n')
  | .lineEnd .either => after.all fun c => c = '\r' || (c = '\n' && before != some '\r')
  | .wordBoundary w => before.any w.contains != after.any w.contains
  | .noWordBoundary w => before.any w.contains == after.any w.contains
  | .wordStart w => !before.any w.contains && after.any w.contains
  | .wordEnd w => before.any w.contains && !after.any w.contains
  | .wordStartHalf w => !before.any w.contains
  | .wordEndHalf w => !after.any w.contains

/-- Where the first group starts and ends, as far as it took part. -/
structure Span where
  start : Option Nat
  stop : Option Nat
  deriving DecidableEq, Repr

/-- A way through the program: where it stands, and what it noted. -/
structure Thread where
  place : Nat
  span : Span
  deriving Repr

/-- A place in a text: how many characters stand before it, and the characters next to it. -/
structure Spot where
  position : Nat
  before : Option Char
  after : Option Char

/-- The threads at a place. An instruction has the number of the last place where a thread came to it, counted from
one. -/
structure Front where
  marks : Array Nat
  threads : Array Thread

/-- Let threads go on to where they have to read a character or are done, the first one first. -/
def Front.follow (code : Array Instruction) (spot : Spot) (fuel : Nat) (front : Front) (waiting : List Thread) :
    Front :=
  match fuel, waiting with
  | _, [] => front
  | 0, _ => front
  | fuel + 1, t :: waiting =>
    if front.marks.getD t.place 0 = spot.position + 1 then front.follow code spot fuel waiting
    else
      let marks := front.marks.setIfInBounds t.place (spot.position + 1)
      match code.getD t.place .done with
      | .char _ => Front.follow code spot fuel ⟨marks, front.threads.push t⟩ waiting
      | .done => Front.follow code spot fuel ⟨marks, front.threads.push t⟩ waiting
      | .look l =>
        let waiting := if l.holds spot.before spot.after then { t with place := t.place + 1 } :: waiting else waiting
        Front.follow code spot fuel ⟨marks, front.threads⟩ waiting
      | .openGroup =>
        let t := ⟨t.place + 1, { t.span with start := some spot.position }⟩
        Front.follow code spot fuel ⟨marks, front.threads⟩ (t :: waiting)
      | .closeGroup =>
        let t := ⟨t.place + 1, { t.span with stop := some spot.position }⟩
        Front.follow code spot fuel ⟨marks, front.threads⟩ (t :: waiting)
      | .split targets =>
        Front.follow code spot fuel ⟨marks, front.threads⟩ (targets.map (fun p => { t with place := p }) ++ waiting)

/-- How many threads can wait in a round at most. -/
def roundLimit (code : Array Instruction) : Nat :=
  code.foldl (fun n i => n + match i with | .split targets => targets.length | _ => 1) 1

/-- Let threads read a character, up to the first one that is done; `spot` is the place behind the character. -/
def advance (code : Array Instruction) (limit : Nat) (spot : Spot) (c : Char) (best : Option Span) (front : Front) :
    List Thread → Option Span × Front
  | [] => (best, front)
  | t :: rest =>
    match code.getD t.place .done with
    | .char ranges =>
      if CodeSet.searchRanges ranges c.toNat 0 ranges.size then
        advance code limit spot c best (front.follow code spot limit [{ t with place := t.place + 1 }]) rest
      else advance code limit spot c best front rest
    | .done => (some t.span, front)
    | _ => advance code limit spot c best front rest

/-- The first thread that is done. -/
def firstDone (code : Array Instruction) (threads : Array Thread) : Option Span :=
  (threads.find? fun t => match code.getD t.place .done with | .done => true | _ => false).map (·.span)

/-- Search from a place on. -/
def searchFrom (code : Array Instruction) (limit position : Nat) (before : Option Char) (best : Option Span)
    (front : Front) : List Char → Option Span
  | [] =>
    let front := if best.isNone then front.follow code ⟨position, before, none⟩ limit [⟨0, none, none⟩] else front
    (firstDone code front.threads).or best
  | c :: rest =>
    let spot : Spot := ⟨position, before, some c⟩
    let front := if best.isNone then front.follow code spot limit [⟨0, none, none⟩] else front
    if best.isSome && front.threads.isEmpty then best
    else
      let threads := front.threads.toList
      let (best, front) :=
        advance code limit ⟨position + 1, some c, rest.head?⟩ c best ⟨front.marks, #[]⟩ threads
      searchFrom code limit (position + 1) (some c) best front rest

/-- What the first match of a program in a text notes of the first group. -/
def search (code : Array Instruction) (text : List Char) : Option Span :=
  searchFrom code (roundLimit code) 0 none none ⟨Array.replicate code.size 0, #[]⟩ text

end SiteProbe.Regex
