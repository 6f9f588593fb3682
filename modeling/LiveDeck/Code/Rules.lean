import LiveDeck.Code.Token
import LiveDeck.Text.Pattern

/-! # Lexers made of rules

A rule matches a sequence of parts, each of which becomes a token of its own kind unless it is
empty, and then stays in the current state, leaves it, or enters another one.  The rules of the
state are tried in order.  Where none matches, a line feed is whitespace and returns to the
initial state, and any other character is an error.

Every rule either consumes something or leaves a state that a consuming rule had entered, so
the number of steps is bounded by the length of the code. -/

namespace LiveDeck.Code

open Text (Pattern)

/-- What a rule does to the stack of states. -/
inductive Step (State : Type) where
  | stay
  | leave
  | enter (state : State)
  deriving DecidableEq, Repr

/-- A rule: the parts it matches, and the step it takes. -/
structure Rule (State : Type) where
  parts : List (TokenKind × Pattern)
  step : Step State := .stay

namespace Rule

variable {State : Type}

/-- A rule of one part. -/
def token (kind : TokenKind) (pattern : Pattern) (step : Step State := .stay) : Rule State :=
  ⟨[(kind, pattern)], step⟩

/-- Matches the parts one after another and lists where each of them ends. -/
def ends? (s : Array Char) : List (TokenKind × Pattern) → Nat → Option (List (TokenKind × Nat))
  | [], _ => some []
  | (kind, pattern) :: rest, i =>
    pattern.run s i fun j => (ends? s rest j).map ((kind, j) :: ·)

/-- The tokens between the ends of the parts, without the empty ones. -/
def cut (s : Array Char) : Nat → List (TokenKind × Nat) → List Token
  | _, [] => []
  | i, (kind, j) :: rest =>
    if i < j then ⟨kind, (s.extract i j).toList⟩ :: cut s j rest else cut s j rest

end Rule

/-- The stack of states after a step; the state at the bottom is never left. -/
def Step.apply {State : Type} : Step State → List State → List State
  | .stay, states => states
  | .enter state, states => state :: states
  | .leave, _ :: state :: states => state :: states
  | .leave, states => states

/-- A lexer given by its initial state and the rules of every state. -/
structure RuleLexer (State : Type) where
  start : State
  rules : State → List (Rule State)

namespace RuleLexer

variable {State : Type}

/-- The first rule that matches: its tokens, where they end, and its step. -/
def firstMatch? (s : Array Char) (i : Nat) : List (Rule State) →
    Option (List Token × Nat × Step State)
  | [] => none
  | rule :: rest =>
    match Rule.ends? s rule.parts i with
    | some ends => some (Rule.cut s i ends, (ends.getLast?.map (·.2)).getD i, rule.step)
    | none => firstMatch? s i rest

/-- The tokens from position `i` on, in at most `fuel` steps. -/
def tokensFrom (lexer : RuleLexer State) (s : Array Char) : Nat → List State → Nat → List Token
  | 0, _, _ => []
  | fuel + 1, states, i =>
    match s[i]? with
    | none => []
    | some c =>
      let state := states.headD lexer.start
      match firstMatch? s i (lexer.rules state) with
      | some (tokens, j, step) => tokens ++ tokensFrom lexer s fuel (step.apply states) j
      | none =>
        if c = '\n' then ⟨.whitespace, ['\n']⟩ :: tokensFrom lexer s fuel [lexer.start] (i + 1)
        else ⟨.error, [c]⟩ :: tokensFrom lexer s fuel states (i + 1)

/-- Cuts code into tokens by the rules. -/
def lexer (rules : RuleLexer State) : Lexer := fun code =>
  tokensFrom rules code.toArray (3 * code.length + 3) [rules.start] 0

end RuleLexer

end LiveDeck.Code
