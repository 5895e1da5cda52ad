/-!
# Text patterns

A pattern describes a piece of text by the characters that it takes, one after the other, with choices and repetitions
between them. Matching is ordered: of several ways to match, the first choice and the longest repetition come first
(the shortest for a reluctant repetition), and the first way that lets the whole pattern match is the match. The
meaning of a pattern at a place in a text is therefore the list of all places where it can end, in order of
preference; everything else in this module is defined from that list.
-/

namespace ContractAudit

/-- A captured piece of text: what followed its start and what followed its end. -/
structure Span where
  start : List Char
  stop : List Char

/-- The characters between the start and the end of a span. -/
def Span.text (span : Span) : List Char := span.start.take (span.start.length - span.stop.length)

/-- A place in a text: the character before it, the text after it, and the pieces captured on the way there, the last
one first. -/
structure Cursor where
  before : Option Char
  rest : List Char
  captures : List (Nat × Span) := []

inductive Pattern where
  /-- Takes nothing. -/
  | empty
  /-- Takes one character of a class. -/
  | one (accepts : Char → Bool)
  /-- Takes characters of a class, as many as possible or, when reluctant, as few as possible. -/
  | run (accepts : Char → Bool) (reluctant : Bool)
  /-- Takes nothing, where the characters before and after the place are as required. -/
  | between (holds : Option Char → Option Char → Bool)
  | seq (first second : Pattern)
  /-- Prefers the first pattern. -/
  | alt (first second : Pattern)
  /-- Takes the body as often as possible. -/
  | many (body : Pattern)
  /-- Keeps what the body takes under a label. -/
  | capture (label : Nat) (body : Pattern)

namespace Pattern

instance : Append Pattern := ⟨seq⟩

instance : OrElse Pattern := ⟨fun first second ↦ alt first (second ())⟩

/-- The places after zero, one, two, … characters of a class, the last one first, put in front of the given places. -/
def runEnds (accepts : Char → Bool) (captures : List (Nat × Span)) :
    Option Char → List Char → List Cursor → List Cursor
  | before, [], shorter => ⟨before, [], captures⟩ :: shorter
  | before, c :: rest, shorter =>
    let places := ⟨before, c :: rest, captures⟩ :: shorter
    if accepts c then runEnds accepts captures (some c) rest places else places

/-- The places after repeating a step, more repetitions first, put in front of the given places. -/
def manyEnds (step : Cursor → List Cursor) : (limit : Nat) → Cursor → List Cursor → List Cursor
  | 0, place, after => place :: after
  | limit + 1, place, after => (step place).foldr (manyEnds step limit) (place :: after)

/-- The places where a pattern can end when it starts at the given place, in order of preference. Each repetition of a
body takes at least one character, so the length of the text bounds their number. -/
def ends : Pattern → Cursor → List Cursor
  | empty, place => [place]
  | one accepts, place =>
    match place.rest with
    | [] => []
    | c :: rest => if accepts c then [⟨some c, rest, place.captures⟩] else []
  | run accepts reluctant, place =>
    let longestFirst := runEnds accepts place.captures place.before place.rest []
    if reluctant then longestFirst.reverse else longestFirst
  | between holds, place => if holds place.before place.rest.head? then [place] else []
  | seq first second, place => (first.ends place).flatMap second.ends
  | alt first second, place => first.ends place ++ second.ends place
  | many body, place => manyEnds body.ends place.rest.length place []
  | capture label body, place =>
    (body.ends place).map fun stop ↦
      { stop with captures := (label, ⟨place.rest, stop.rest⟩) :: stop.captures }

end Pattern

/-- A match of a pattern: the text that followed its start and the place where it ended. -/
structure Match where
  start : List Char
  stop : Cursor

namespace Match

def length (found : Match) : Nat := found.start.length - found.stop.rest.length

def group? (found : Match) (label : Nat) : Option (List Char) :=
  (found.stop.captures.lookup label).map Span.text

/-- The text of a capture, empty when there is none. -/
def group (found : Match) (label : Nat) : List Char := (found.group? label).getD []

def offset (found : Match) (text : List Char) : Nat := text.length - found.start.length

/-- How many characters of the whole text stand before a capture. -/
def groupOffset (found : Match) (label : Nat) (text : List Char) : Nat :=
  match found.stop.captures.lookup label with
  | some span => text.length - span.start.length
  | none => found.offset text

end Match

namespace Pattern

/-- The match that starts at a place. -/
def matchAt? (pattern : Pattern) (before : Option Char) (rest : List Char) : Option Match :=
  (pattern.ends ⟨before, rest, []⟩).head?.map fun stop ↦ ⟨rest, stop⟩

def matchStart? (pattern : Pattern) (text : List Char) : Option Match := pattern.matchAt? none text

/-- The first match at or after a place. -/
def searchFrom? (pattern : Pattern) : Option Char → List Char → Option Match
  | before, [] => pattern.matchAt? before []
  | before, c :: rest =>
    match pattern.matchAt? before (c :: rest) with
    | some found => some found
    | none => pattern.searchFrom? (some c) rest

/-- The first match in a text. -/
def search? (pattern : Pattern) (text : List Char) : Option Match := pattern.searchFrom? none text

/-- Whether a pattern matches somewhere in a text. -/
def occursIn (pattern : Pattern) (text : List Char) : Bool := (pattern.search? text).isSome

def anyOccursIn (patterns : List Pattern) (text : List Char) : Bool := patterns.any (·.occursIn text)

/-- The matches after `skip` characters, from left to right, each starting where the one before it ended. -/
def matchesFrom (pattern : Pattern) : (skip : Nat) → Option Char → List Char → List Match
  | 0, before, [] => (pattern.matchAt? before []).toList
  | _ + 1, _, [] => []
  | skip + 1, _, c :: rest => pattern.matchesFrom skip (some c) rest
  | 0, before, c :: rest =>
    match pattern.matchAt? before (c :: rest) with
    | some found => found :: pattern.matchesFrom (found.length - 1) (some c) rest
    | none => pattern.matchesFrom 0 (some c) rest

/-- All matches in a text that do not overlap. -/
def allMatches (pattern : Pattern) (text : List Char) : List Match := pattern.matchesFrom 0 none text

/-- The captures under a label of all matches. -/
def allGroups (pattern : Pattern) (label : Nat) (text : List Char) : List (List Char) :=
  (pattern.allMatches text).map (·.group label)

/-- The text after `skip` characters with every match replaced. -/
def replaceFrom (pattern : Pattern) (replacement : List Char) :
    (skip : Nat) → Option Char → List Char → List Char
  | _, _, [] => []
  | skip + 1, _, c :: rest => pattern.replaceFrom replacement skip (some c) rest
  | 0, before, c :: rest =>
    match pattern.matchAt? before (c :: rest) with
    | some found => replacement ++ pattern.replaceFrom replacement (found.length - 1) (some c) rest
    | none => c :: pattern.replaceFrom replacement 0 (some c) rest

/-- The text with every match replaced; the pattern takes at least one character. -/
def replaceAll (pattern : Pattern) (replacement : List Char) (text : List Char) : List Char :=
  pattern.replaceFrom replacement 0 none text

end Pattern

end ContractAudit
