import LiveDeck.Code.Highlight
import LiveDeck.Proofs.Text.Pattern

/-! # No lexer loses code

A lexer is lossless if the texts of its tokens, one after another, are the code it was given.

For a lexer made of rules, the tokens of a rule are the code between where the rule starts and where
it ends (`Rule.endsWell_of_ends?`).  Its steps are bounded, so what has to be shown is that they
suffice: a rule that takes nothing leaves a state, of which there are as many as rules that took
something have entered.  `RuleLexer.Progressive` asks this of the rules one by one, and the steps
left are never fewer than twice the code left and the states to leave (`textOf_tokensFrom`).

All languages that highlighting knows are lossless (`lossless_of_lexer?`). -/

namespace LiveDeck.Code

/-- The texts of tokens, one after another. -/
def textOf (tokens : List Token) : List Char := tokens.flatMap Token.text

theorem textOf_cons (token : Token) (tokens : List Token) :
    textOf (token :: tokens) = token.text ++ textOf tokens := rfl

theorem textOf_append (tokens rest : List Token) :
    textOf (tokens ++ rest) = textOf tokens ++ textOf rest := List.flatMap_append

/-- The tokens hold all of the code and nothing else, in its order. -/
def Lossless (lexer : Lexer) : Prop := ∀ code, textOf (lexer code) = code

/-! ### Rules -/

namespace Rule

variable {State : Type} {s : Array Char}

/-- How many characters the parts of a rule take at least. -/
def leastOf : List (TokenKind × Text.Pattern) → Nat
  | [] => 0
  | (_, pattern) :: rest => pattern.least + leastOf rest

/-- Where the last of the parts ends. -/
def lastEnd : Nat → List (TokenKind × Nat) → Nat
  | i, [] => i
  | _, (_, j) :: rest => lastEnd j rest

theorem getLast?_getD_eq_lastEnd (i : Nat) (ends : List (TokenKind × Nat)) :
    (ends.getLast?.map (·.2)).getD i = lastEnd i ends := by
  induction ends generalizing i with
  | nil => rfl
  | cons first rest ih =>
      obtain ⟨kind, j⟩ := first
      rw [lastEnd, ← ih j, List.getLast?_cons]
      cases rest.getLast? <;> rfl

theorem extract_append_drop {i j : Nat} (h : i ≤ j) :
    (s.extract i j).toList ++ s.toList.drop j = s.toList.drop i := by
  have hdrop : s.toList.drop j = (s.toList.drop i).drop (j - i) := by
    rw [List.drop_drop, Nat.add_sub_cancel' h]
  rw [Array.toList_extract, List.extract_eq_take_drop, hdrop, List.take_append_drop]

/-- From `i` on, the tokens are the code up to `j`, which is `least` characters on or more. -/
structure EndsWell (s : Array Char) (least i : Nat) (tokens : List Token) (j : Nat) : Prop where
  least_le : i + least ≤ j
  le_size : j ≤ s.size
  text_eq : textOf tokens ++ s.toList.drop j = s.toList.drop i

theorem EndsWell.cons {kind : TokenKind} {least rest i j : Nat} {ends : List (TokenKind × Nat)}
    (hij : i + least ≤ j) (h : EndsWell s rest j (cut s j ends) (lastEnd j ends)) :
    EndsWell s (least + rest) i (cut s i ((kind, j) :: ends)) (lastEnd i ((kind, j) :: ends)) := by
  obtain ⟨hle, hsize, htext⟩ := h
  rw [lastEnd]
  refine ⟨by omega, hsize, ?_⟩
  rw [cut]
  split
  · rw [textOf_cons, List.append_assoc, htext]
    exact extract_append_drop (by omega)
  · have hsame : i = j := by omega
    rw [htext, hsame]

theorem endsWell_of_ends? {parts : List (TokenKind × Text.Pattern)} {i : Nat}
    {ends : List (TokenKind × Nat)} (hi : i ≤ s.size) (h : ends? s parts i = some ends) :
    EndsWell s (leastOf parts) i (cut s i ends) (lastEnd i ends) := by
  induction parts generalizing i ends with
  | nil =>
      cases h
      exact ⟨by simp [leastOf, lastEnd], hi, rfl⟩
  | cons part parts ih =>
      obtain ⟨kind, pattern⟩ := part
      rw [ends?] at h
      obtain ⟨j, hij, hj, hrest⟩ := Text.Pattern.endsWithin_run pattern i _ ends hi h
      obtain ⟨others, hothers, rfl⟩ := Option.map_eq_some_iff.mp hrest
      exact (ih hj hothers).cons hij

end Rule

/-! ### Stacks of states -/

namespace Step

variable {State : Type} {states : List State} {start : State}

theorem getLast?_apply (step : Step State) (h : states.getLast? = some start) :
    (step.apply states).getLast? = some start := by
  cases step with
  | stay => exact h
  | enter state =>
      rw [apply, List.getLast?_cons, h]
      rfl
  | leave =>
      match states, h with
      | [_], h => exact h
      | _ :: second :: rest, h => exact h

theorem length_apply_le (step : Step State) : (step.apply states).length ≤ states.length + 1 := by
  cases step with
  | stay => exact Nat.le_succ _
  | enter state => exact Nat.le_refl _
  | leave =>
      match states with
      | [] => exact Nat.zero_le _
      | [_] => simp [apply]
      | _ :: second :: rest =>
          rw [apply]
          simp only [List.length_cons]
          omega

theorem length_apply_leave (h : states.getLast? = some start) (hne : states.headD start ≠ start) :
    (leave.apply states).length + 1 = states.length := by
  match states, h, hne with
  | [state], h, hne => exact absurd (Option.some.inj h) hne
  | _ :: second :: rest, _, _ => rfl

end Step

/-! ### Lexers made of rules -/

namespace RuleLexer

open Rule (leastOf EndsWell)

variable {State : Type} {s : Array Char}

/-- Every rule takes something, or leaves a state that is not the initial one. -/
def Progressive (lexer : RuleLexer State) : Prop :=
  ∀ state, ∀ rule ∈ lexer.rules state,
    0 < leastOf rule.parts ∨ rule.step = .leave ∧ state ≠ lexer.start

theorem exists_of_firstMatch? {rules : List (Rule State)} {i j : Nat} {tokens : List Token}
    {step : Step State} (hi : i ≤ s.size) (h : firstMatch? s i rules = some (tokens, j, step)) :
    ∃ rule ∈ rules, step = rule.step ∧ EndsWell s (leastOf rule.parts) i tokens j := by
  induction rules with
  | nil => cases h
  | cons rule rules ih =>
      rw [firstMatch?] at h
      split at h
      · rename_i ends hends
        cases h
        rw [Rule.getLast?_getD_eq_lastEnd]
        exact ⟨rule, List.mem_cons_self, rfl, Rule.endsWell_of_ends? hi hends⟩
      · obtain ⟨found, hfound, hspec⟩ := ih h
        exact ⟨found, List.mem_cons_of_mem _ hfound, hspec⟩

/-- A step leaves enough steps for what is left. -/
theorem measure_apply_lt {lexer : RuleLexer State} (hprogressive : lexer.Progressive)
    {states : List State} (hbottom : states.getLast? = some lexer.start) {rule : Rule State}
    (hrule : rule ∈ lexer.rules (states.headD lexer.start)) {i j : Nat}
    (hij : i + leastOf rule.parts ≤ j) (hj : j ≤ s.size) :
    2 * (s.size - j) + (rule.step.apply states).length < 2 * (s.size - i) + states.length := by
  rcases hprogressive _ rule hrule with htakes | ⟨hleave, hne⟩
  · have hlength : (rule.step.apply states).length ≤ states.length + 1 :=
      rule.step.length_apply_le
    omega
  · have hlength := Step.length_apply_leave hbottom hne
    rw [hleave]
    omega

/-- The tokens from a position on hold the code from there on, as long as the steps suffice. -/
theorem textOf_tokensFrom {lexer : RuleLexer State} (hprogressive : lexer.Progressive) {fuel : Nat}
    {states : List State} {i : Nat} (hbottom : states.getLast? = some lexer.start)
    (hi : i ≤ s.size) (hfuel : 2 * (s.size - i) + states.length ≤ fuel) :
    textOf (tokensFrom lexer s fuel states i) = s.toList.drop i := by
  induction fuel generalizing states i with
  | zero =>
      cases states with
      | nil => cases hbottom
      | cons state states => simp at hfuel
  | succ fuel ih =>
      rw [tokensFrom]
      split
      · rename_i hnone
        have hend : s.size ≤ i := Array.getElem?_eq_none_iff.mp hnone
        rw [List.drop_eq_nil_of_le (by simpa using hend)]
        rfl
      · rename_i c hsome
        obtain ⟨hlt, hc⟩ := Array.getElem?_eq_some_iff.mp hsome
        have hdrop : s.toList.drop i = c :: s.toList.drop (i + 1) := by
          rw [← hc, ← Array.getElem_toList, List.drop_eq_getElem_cons]
        have hstep : ∀ states' : List State, states'.getLast? = some lexer.start → ∀ j ≤ s.size,
            2 * (s.size - j) + states'.length < 2 * (s.size - i) + states.length →
            textOf (tokensFrom lexer s fuel states' j) = s.toList.drop j := by
          intro states' hbottom' j hj hmeasure
          exact ih hbottom' hj (by omega)
        simp only
        split
        · rename_i tokens j step hmatch
          obtain ⟨rule, hrule, rfl, hleast, hj, htext⟩ := exists_of_firstMatch? hi hmatch
          rw [textOf_append, hstep _ (rule.step.getLast?_apply hbottom) j hj
            (measure_apply_lt hprogressive hbottom hrule hleast hj), htext]
        · split
          · rename_i hfeed
            rw [textOf_cons, hstep [lexer.start] rfl (i + 1) hlt (by simp; omega), hdrop, hfeed]
            rfl
          · rw [textOf_cons, hstep states hbottom (i + 1) hlt (by omega), hdrop]
            rfl

/-- A lexer whose rules make progress loses no code. -/
theorem lossless {lexer : RuleLexer State} (h : lexer.Progressive) : Lossless lexer.lexer := by
  intro code
  have hfuel : 2 * (code.toArray.size - 0) + [lexer.start].length ≤ 3 * code.length + 3 := by
    simp only [List.size_toArray, List.length_singleton]
    omega
  exact textOf_tokensFrom h rfl (Nat.zero_le _) hfuel

end RuleLexer

/-! ### JSON -/

namespace Json

theorem append_of_stringRest {state : Option Nat} {s text rest : List Char}
    (h : stringRest state s = some (text, rest)) : text ++ rest = s := by
  fun_induction stringRest state s generalizing text rest with
  | case1 => cases h
  | case2 s =>
      cases h
      rfl
  | case3 c s _ ih | case4 c s ih | case5 n c s ih =>
      obtain ⟨⟨others, rest'⟩, hothers, hpair⟩ := Option.map_eq_some_iff.mp h
      cases hpair
      rw [List.cons_append, ih hothers]

theorem append_of_commentRest {s text rest : List Char} (h : commentRest s = some (text, rest)) :
    text ++ rest = s := by
  fun_induction commentRest s generalizing text rest with
  | case1 => cases h
  | case2 s =>
      cases h
      rfl
  | case3 c s _ ih =>
      obtain ⟨⟨others, rest'⟩, hothers, hpair⟩ := Option.map_eq_some_iff.mp h
      cases hpair
      rw [List.cons_append, ih hothers]

theorem exists_text_token (c : Char) (s : List Char) :
    ∃ text, (token c s).text = c :: text ∧ text <+: s := by
  unfold token
  split
  · split
    · rename_i text rest hstring
      exact ⟨text, rfl, rest, append_of_stringRest hstring⟩
    · exact ⟨s, rfl, List.prefix_refl s⟩
  split
  · exact ⟨_, rfl, List.takeWhile_prefix _⟩
  split
  · exact ⟨_, rfl, List.takeWhile_prefix _⟩
  split
  · exact ⟨_, rfl, List.takeWhile_prefix _⟩
  split
  · exact ⟨_, rfl, List.takeWhile_prefix _⟩
  split
  · split
    · exact ⟨_, rfl, List.cons_prefix_cons.mpr ⟨rfl, List.takeWhile_prefix _⟩⟩
    · split
      · rename_i text rest hcomment
        exact ⟨_, rfl, rest, congrArg ('*' :: ·) (append_of_commentRest hcomment)⟩
      · exact ⟨_, rfl, List.prefix_refl _⟩
    · exact ⟨[], rfl, List.nil_prefix⟩
  · exact ⟨[], rfl, List.nil_prefix⟩

theorem textOf_tokens {fuel : Nat} {code : List Char} (h : code.length ≤ fuel) :
    textOf (tokens fuel code) = code := by
  induction fuel generalizing code with
  | zero =>
      rw [List.length_eq_zero_iff.mp (Nat.le_zero.mp h)]
      rfl
  | succ fuel ih =>
      cases code with
      | nil => rfl
      | cons c s =>
          obtain ⟨text, htext, rest, hrest⟩ := exists_text_token c s
          have hdrop : s.drop ((token c s).text.length - 1) = rest := by
            rw [htext, ← hrest, List.length_cons, Nat.add_sub_cancel, List.drop_left]
          have hlength : rest.length ≤ fuel := by
            rw [← hrest, List.length_cons, List.length_append] at h
            omega
          rw [tokens, hdrop, textOf_cons, ih hlength, htext, List.cons_append, hrest]

theorem textOf_markNames (tokens : List Token) : textOf (markNames tokens) = textOf tokens := by
  induction tokens with
  | nil => rfl
  | cons first rest ih =>
      have hsame : ∀ marked : Bool,
          (if marked then { first with kind := .nameTag } else first).text = first.text := by
        intro marked
        cases marked <;> rfl
      rw [markNames, textOf_cons, textOf_cons, ih, hsame]

theorem lossless : Lossless lexer := by
  intro code
  rw [lexer, textOf_markNames, textOf_tokens (Nat.le_refl _)]

end Json

/-! ### Languages made of rules -/

theorem Ini.progressive : RuleLexer.Progressive ⟨.root, Ini.rules⟩ := by
  intro state
  cases state <;> decide +kernel

theorem Diff.progressive : RuleLexer.Progressive ⟨(), fun _ => Diff.rules⟩ := by
  intro state
  cases state
  decide +kernel

namespace Python

open Rule (leastOf)
open Text (Pattern)

theorem least_wordOf_pos {words : List String} (h : words.all (· != "") = true) :
    0 < (wordOf words).least := by
  have hany : 0 < (Pattern.any (words.map .exactly)).least := by
    refine Pattern.least_any_pos ?_
    intro pattern hpattern
    obtain ⟨word, hword, rfl⟩ := List.mem_map.mp hpattern
    exact Pattern.least_exactly_pos (bne_iff_ne.mp (List.all_eq_true.mp h word hword))
  exact Nat.lt_of_lt_of_le hany (Nat.le_add_right _ _)

theorem takes_words {kind : TokenKind} {words : List String} {step : Step State}
    (h : words.all (· != "") = true) : 0 < leastOf (Rule.token kind (wordOf words) step).parts :=
  Nat.lt_of_lt_of_le (least_wordOf_pos h) (Nat.le_add_right _ _)

theorem takes_words_after {kind : TokenKind} {words : List String} {before : Pattern}
    {step : Step State} (h : words.all (· != "") = true) :
    0 < leastOf (Rule.token kind (.seq before (wordOf words)) step).parts := by
  have hwords := least_wordOf_pos h
  have hparts : leastOf (Rule.token kind (.seq before (wordOf words)) step).parts =
      before.least + (wordOf words).least + 0 := rfl
  omega

theorem takes_statements : ∀ rule ∈ statements, 0 < leastOf rule.parts := by
  simp (disch := decide +kernel) only [statements, List.forall_mem_cons, takes_words, true_and]
  decide +kernel

theorem takes_expressions : ∀ rule ∈ expressions, 0 < leastOf rule.parts := by
  simp (disch := decide +kernel) only [expressions, List.forall_mem_append, List.forall_mem_cons,
    takes_words, takes_words_after, true_and]
  decide +kernel

/-- In the initial state every rule takes something; the rules that do not are in other states and
leave them. -/
theorem progressive : RuleLexer.Progressive ⟨.root, rules⟩ := by
  intro state
  cases state with
  | root =>
      intro rule hrule
      rcases List.mem_append.mp hrule with hrule | hrule
      · exact .inl (takes_statements rule hrule)
      · exact .inl (takes_expressions rule hrule)
  | functionName =>
      refine List.forall_mem_cons.mpr ⟨.inl (takes_words (by decide +kernel)), ?_⟩
      decide +kernel
  | string quotes escapes => cases quotes <;> cases escapes <;> decide +kernel
  | _ => decide +kernel

end Python

/-! ### All languages -/

theorem lossless_single (kind : TokenKind) : Lossless fun code => [⟨kind, code⟩] := by
  intro code
  rw [textOf_cons]
  exact List.append_nil code

/-- No language that highlighting knows loses code. -/
theorem lossless_of_lexer? {name : String} {lexer : Lexer} (h : lexer? name = some lexer) :
    Lossless lexer := by
  have hall : ∀ entry ∈ languages, Lossless entry.2 := by
    have hini := RuleLexer.lossless Ini.progressive
    have hdiff := RuleLexer.lossless Diff.progressive
    have hpython := RuleLexer.lossless Python.progressive
    have hjson := Json.lossless
    simp only [languages, List.forall_mem_cons]
    exact ⟨lossless_single .text, lossless_single .output, hjson, hjson, hini, hini, hini, hdiff,
      hdiff, hpython, hpython, hpython, hpython, List.forall_mem_nil _⟩
  obtain ⟨before, after, hlanguages, _⟩ := List.lookup_eq_some_iff.mp h
  refine hall (name.toLower, lexer) ?_
  rw [hlanguages]
  exact List.mem_append_right _ List.mem_cons_self

end LiveDeck.Code
