import Mathlib.Data.List.Basic

/-!
# The Text of SQL

Statements as a database reads them before it looks at their grammar: words,
quoted text and symbols, with comments and white space between them. Text in
quotes ends at the next quote of its kind, so one that is doubled begins the
next quoted text. A comment runs from two dashes to the end of the line, or
between a slash with a star and a star with a slash.

The reader goes through a text character by character, so a text can be read in
parts: what comes of the second part depends on the first only through the mode
the first one ends in. At the top level are the tokens outside all parentheses.
What a word is made of is a parameter.

## Main definitions

* `Token`, `Mode`, `tokens`: Reading a text.
* `StandsIn`: A word stands in a text for itself.

## Theorems

* `standsIn_of_mem_tokens`: A word that is read stands in the text.
* `limitBound_append_limit`: The bound of a limit at the end.
-/

namespace AgenticRag

namespace Sql

/-- A word, a literal or a sign. -/
inductive Token where
  | word (text : String)
  | quoted
  | symbol (c : Char)
  deriving DecidableEq, Repr

/-- Where in a text the reader is. -/
inductive Mode where
  | code
  /-- In a word, the characters of which are kept in reverse. -/
  | word (read : List Char)
  | quoted (quote : Char)
  /-- After a dash, which may begin a comment. -/
  | dash
  | line
  /-- After a slash, which may begin a comment. -/
  | slash
  | block
  /-- In a comment after a star, which may end it. -/
  | star
  deriving DecidableEq, Repr

section Reading

variable (isWord : Char → Bool)

/-- A mark that opens a literal. -/
def isQuote (c : Char) : Bool := c == '\'' || c == '"' || c == '\x60'

/-- White space. -/
def isBlank (c : Char) : Bool := c == ' ' || c == '\n' || c == '\t' || c == '\r'

/-- Read a character where a token may begin. -/
def begin (c : Char) : Mode × List Token :=
  if isWord c then (.word [c], [])
  else if isQuote c then (.quoted c, [])
  -- These two may begin a comment.
  else if c = '-' then (.dash, [])
  else if c = '/' then (.slash, [])
  else if isBlank c then (.code, [])
  else (.code, [.symbol c])

/-- The token a text ends with in a mode. -/
def finish : Mode → List Token
  | .word read => [.word (String.ofList read.reverse)]
  | .quoted _ => [.quoted]
  | .dash => [.symbol '-']
  | .slash => [.symbol '/']
  | _ => []

theorem finish_word (read : List Char) :
    finish (.word read) = [.word (String.ofList read.reverse)] := rfl

theorem finish_quoted (quote : Char) : finish (.quoted quote) = [.quoted] := rfl

theorem finish_dash : finish .dash = [.symbol '-'] := rfl

theorem finish_slash : finish .slash = [.symbol '/'] := rfl

/-- Read a character. -/
def step : Mode → Char → Mode × List Token
  | .code, c => begin isWord c
  | .word read, c =>
      if isWord c then (.word (c :: read), [])
      -- The character after a word begins something else.
      else ((begin isWord c).1, finish (.word read) ++ (begin isWord c).2)
  | .quoted quote, c => if c = quote then (.code, [.quoted]) else (.quoted quote, [])
  | .dash, c =>
      if c = '-' then (.line, [])
      else ((begin isWord c).1, finish .dash ++ (begin isWord c).2)
  | .line, c => if c = '\n' then (.code, []) else (.line, [])
  | .slash, c =>
      if c = '*' then (.block, [])
      else ((begin isWord c).1, finish .slash ++ (begin isWord c).2)
  | .block, c => if c = '*' then (.star, []) else (.block, [])
  | .star, c =>
      -- A run of stars may still end the comment.
      if c = '/' then (.code, []) else if c = '*' then (.star, []) else (.block, [])

/-- The tokens read from a mode. -/
def tokensFrom : Mode → List Char → List Token
  | mode, [] => finish mode
  | mode, c :: cs => (step isWord mode c).2 ++ tokensFrom (step isWord mode c).1 cs

/-- The mode after some text. -/
def modeAfter : Mode → List Char → Mode
  | mode, [] => mode
  | mode, c :: cs => modeAfter (step isWord mode c).1 cs

/-- The tokens of a text. -/
def tokens (text : String) : List Token := tokensFrom isWord .code text.toList

/-- The text ends in code, outside quotes and comments. -/
def Mode.isOpen : Mode → Bool
  | .code => true
  | .word _ => true
  | .dash => true
  | .slash => true
  | _ => false

/-- A blank ends whatever is read in code. -/
theorem tokensFrom_blank {mode : Mode} (hopen : mode.isOpen = true) (hblank : isWord ' ' = false)
    (cs : List Char) :
    tokensFrom isWord mode (' ' :: cs) = finish mode ++ tokensFrom isWord .code cs := by
  have hbegin : begin isWord ' ' = (.code, []) := by
    rw [begin, hblank]
    rfl
  cases mode with
  | code => rw [tokensFrom, step, hbegin]; rfl
  | word read =>
      rw [tokensFrom, step, if_neg (by rw [hblank]; exact Bool.false_ne_true), hbegin,
        List.append_nil]
  | dash => rw [tokensFrom, step, if_neg (by decide), hbegin, List.append_nil]
  | slash => rw [tokensFrom, step, if_neg (by decide), hbegin, List.append_nil]
  | quoted _ => cases hopen
  | line => cases hopen
  | block => cases hopen
  | star => cases hopen

/-- A blank after a text that ends in code separates what follows. -/
theorem tokensFrom_append_blank (hblank : isWord ' ' = false) {mode : Mode} (cs ds : List Char)
    (hopen : (modeAfter isWord mode cs).isOpen = true) :
    tokensFrom isWord mode (cs ++ ' ' :: ds) =
      tokensFrom isWord mode cs ++ tokensFrom isWord .code ds := by
  induction cs generalizing mode with
  | nil => exact tokensFrom_blank isWord hopen hblank ds
  | cons c cs ih =>
      rw [List.cons_append, tokensFrom, ih hopen, tokensFrom, List.append_assoc]

/-- A word is read as one. -/
theorem tokensFrom_word {read w : List Char} (hw : ∀ c ∈ w, isWord c = true) :
    tokensFrom isWord (.word read) w = [.word (String.ofList (read.reverse ++ w))] := by
  induction w generalizing read with
  | nil => rw [List.append_nil]; rfl
  | cons c w ih =>
      rw [tokensFrom, step, if_pos (hw c List.mem_cons_self), List.nil_append,
        ih (fun d hd => hw d (List.mem_cons_of_mem _ hd)), List.reverse_cons, List.append_assoc]
      rfl

theorem tokensFrom_of_word {w : List Char} (hne : w ≠ []) (hw : ∀ c ∈ w, isWord c = true) :
    tokensFrom isWord .code w = [.word (String.ofList w)] := by
  cases w with
  | nil => exact absurd rfl hne
  | cons c w =>
      rw [tokensFrom, step, begin, if_pos (hw c List.mem_cons_self), List.nil_append,
        tokensFrom_word isWord (fun d hd => hw d (List.mem_cons_of_mem _ hd))]
      rfl

theorem modeAfter_word {read w : List Char} (hw : ∀ c ∈ w, isWord c = true) :
    modeAfter isWord (.word read) w = .word (w.reverse ++ read) := by
  induction w generalizing read with
  | nil => rfl
  | cons c w ih =>
      rw [modeAfter, step, if_pos (hw c List.mem_cons_self),
        ih (fun d hd => hw d (List.mem_cons_of_mem _ hd)), List.reverse_cons, List.append_assoc]
      rfl

/-- Reading a word ends in code. -/
theorem isOpen_modeAfter_of_word {w : List Char} (hw : ∀ c ∈ w, isWord c = true) :
    (modeAfter isWord .code w).isOpen = true := by
  cases w with
  | nil => rfl
  | cons c w =>
      rw [modeAfter, step, begin, if_pos (hw c List.mem_cons_self),
        modeAfter_word isWord (fun d hd => hw d (List.mem_cons_of_mem _ hd))]
      rfl

end Reading

section Standing

variable {isWord : Char → Bool}

/-- A word stands in a text: what is before it and after it is no part of a
    word. -/
def StandsIn (isWord : Char → Bool) (w text : List Char) : Prop :=
  ∃ before after, text = before ++ w ++ after ∧ w ≠ [] ∧ (∀ c ∈ w, isWord c = true) ∧
    before.getLast?.all (fun c => !isWord c) = true ∧
    after.head?.all (fun c => !isWord c) = true

/-- What the text read so far looks like in a mode. -/
def Reached (isWord : Char → Bool) : Mode → List Char → Prop
  | .word read, text => ∃ before, text = before ++ read.reverse ∧ read ≠ [] ∧
      (∀ c ∈ read, isWord c = true) ∧ before.getLast?.all (fun c => !isWord c) = true
  | .quoted quote, _ => isWord quote = false
  | .line, _ => True
  | .slash, text => isWord '/' = false ∧ text.getLast?.all (fun c => !isWord c) = true
  | .block, _ => isWord '/' = false
  | .star, _ => isWord '/' = false
  | _, text => text.getLast?.all (fun c => !isWord c) = true

theorem getLast?_append_all {c : Char} (hc : isWord c = false) (text : List Char) :
    (text ++ [c]).getLast?.all (fun d => !isWord d) = true := by
  rw [List.getLast?_append, List.getLast?_singleton]
  simp [hc]

/-- What begins with a character that is of no word is no word. -/
theorem reached_begin_of_not_word {c : Char} (hc : isWord c = false) (text : List Char) :
    Reached isWord (begin isWord c).1 (text ++ [c]) := by
  rw [begin, if_neg (by rw [hc]; exact Bool.false_ne_true)]
  split_ifs with hquote hdash hslash hblank
  · exact hc
  · exact getLast?_append_all hc text
  · exact ⟨hslash ▸ hc, getLast?_append_all hc text⟩
  · exact getLast?_append_all hc text
  · exact getLast?_append_all hc text

theorem reached_begin {c : Char} {text : List Char}
    (htext : text.getLast?.all (fun d => !isWord d) = true) :
    Reached isWord (begin isWord c).1 (text ++ [c]) := by
  cases hc : isWord c with
  | true =>
      rw [begin, if_pos hc]
      exact ⟨text, rfl, List.cons_ne_nil _ _, fun d hd => List.mem_singleton.mp hd ▸ hc, htext⟩
  | false => exact reached_begin_of_not_word hc text

theorem reached_step (hline : isWord '\n' = false) {mode : Mode} {text : List Char}
    (h : Reached isWord mode text) (c : Char) :
    Reached isWord (step isWord mode c).1 (text ++ [c]) := by
  cases mode with
  | code => exact reached_begin h
  | word read =>
      rcases h with ⟨before, htext, hne, hread, hbefore⟩
      rw [step]
      split_ifs with hc
      · refine ⟨before, ?_, List.cons_ne_nil _ _, ?_, hbefore⟩
        · rw [htext, List.reverse_cons, List.append_assoc]
        · rintro d (_ | ⟨_, hd⟩)
          · exact hc
          · exact hread d hd
      -- The word ended, so what is read now follows no word character.
      · exact reached_begin_of_not_word (Bool.eq_false_iff.mpr hc) text
  | quoted quote =>
      rw [step]
      split_ifs with hc
      · exact getLast?_append_all (hc ▸ h) text
      · exact h
  | dash =>
      rw [step]
      split_ifs with hc
      · trivial
      · exact reached_begin h
  | line =>
      rw [step]
      split_ifs with hc
      · exact getLast?_append_all (hc ▸ hline) text
      · trivial
  | slash =>
      rw [step]
      split_ifs with hc
      · exact h.1
      · exact reached_begin h.2
  | block =>
      rw [step]
      split_ifs with hc
      · exact h
      · exact h
  | star =>
      rw [step]
      split_ifs with hc hstar
      · exact getLast?_append_all (hc ▸ h) text
      · exact h
      · exact h

theorem word_not_mem_begin (w : String) (c : Char) : .word w ∉ (begin isWord c).2 := by
  rw [begin]
  split_ifs <;> simp

/-- A word is read off where it ends. -/
theorem word_mem_step {w : String} {mode : Mode} {c : Char}
    (h : .word w ∈ (step isWord mode c).2) :
    ∃ read, mode = .word read ∧ w = String.ofList read.reverse ∧ isWord c = false := by
  cases mode with
  | code => exact absurd h (word_not_mem_begin w c)
  | word read =>
      rw [step] at h
      split_ifs at h with hc
      · exact absurd h List.not_mem_nil
      · rcases List.mem_append.mp h with h | h
        -- Only the word at hand is read off; the character begins a token at most.
        · rw [finish_word, List.mem_singleton, Token.word.injEq] at h
          exact ⟨read, rfl, h, Bool.eq_false_iff.mpr hc⟩
        · exact absurd h (word_not_mem_begin w c)
  | quoted quote =>
      rw [step] at h
      split_ifs at h <;> simp at h
  | dash =>
      rw [step] at h
      split_ifs at h
      · exact absurd h List.not_mem_nil
      · rcases List.mem_append.mp h with h | h
        · simp [finish_dash] at h
        · exact absurd h (word_not_mem_begin w c)
  | slash =>
      rw [step] at h
      split_ifs at h
      · exact absurd h List.not_mem_nil
      · rcases List.mem_append.mp h with h | h
        · simp [finish_slash] at h
        · exact absurd h (word_not_mem_begin w c)
  | line =>
      rw [step] at h
      split_ifs at h <;> simp at h
  | block =>
      rw [step] at h
      split_ifs at h <;> simp at h
  | star =>
      rw [step] at h
      split_ifs at h <;> simp at h

/-- A word that is read stands in the text. -/
theorem standsIn_of_mem_tokensFrom (hline : isWord '\n' = false) {mode : Mode}
    {text rest : List Char} (h : Reached isWord mode text) {w : String}
    (hw : .word w ∈ tokensFrom isWord mode rest) : StandsIn isWord w.toList (text ++ rest) := by
  induction rest generalizing mode text with
  | nil =>
      cases mode with
      | word read =>
          -- The word at the end of the text has nothing behind it.
          rcases h with ⟨before, htext, hne, hread, hbefore⟩
          rw [tokensFrom, finish_word, List.mem_singleton, Token.word.injEq] at hw
          refine ⟨before, [], ?_, ?_, ?_, hbefore, rfl⟩
          · rw [hw, String.toList_ofList, htext, List.append_nil]
          · rw [hw, String.toList_ofList]
            simpa using hne
          · rw [hw, String.toList_ofList]
            simpa using hread
      | code => cases hw
      | line => cases hw
      | block => cases hw
      | star => cases hw
      | quoted _ => simp [tokensFrom, finish_quoted] at hw
      | dash => simp [tokensFrom, finish_dash] at hw
      | slash => simp [tokensFrom, finish_slash] at hw
  | cons c rest ih =>
      rw [tokensFrom, List.mem_append] at hw
      rcases hw with hw | hw
      -- It ends here, or is read later.
      · rcases word_mem_step hw with ⟨read, rfl, hread, hc⟩
        rcases h with ⟨before, htext, hne, hall, hbefore⟩
        refine ⟨before, c :: rest, ?_, ?_, ?_, hbefore, ?_⟩
        · rw [hread, String.toList_ofList, htext]
        · rw [hread, String.toList_ofList]
          simpa using hne
        · rw [hread, String.toList_ofList]
          simpa using hall
        · rw [List.head?_cons, Option.all_some, hc]
          rfl
      · have hstands := ih (reached_step hline h c) hw
        rwa [List.append_assoc, List.singleton_append] at hstands

theorem standsIn_of_mem_tokens (hline : isWord '\n' = false) {text w : String}
    (hw : .word w ∈ tokens isWord text) : StandsIn isWord w.toList text.toList := by
  have hstart : Reached isWord .code [] := rfl
  exact standsIn_of_mem_tokensFrom hline hstart hw

end Standing

section Statements

/-- How deep in parentheses the text after a token is. -/
def depthAfter (depth : Int) : Token → Int
  | .symbol '(' => depth + 1
  | .symbol ')' => depth - 1
  | _ => depth

/-- The tokens outside all parentheses, and the outermost parentheses. -/
def topLevel : Int → List Token → List Token
  | _, [] => []
  | depth, t :: ts =>
      if depth = 0 ∨ depthAfter depth t = 0 then t :: topLevel (depthAfter depth t) ts
      else topLevel (depthAfter depth t) ts

/-- The depth a list of tokens ends in. -/
def depth (ts : List Token) : Int := ts.foldl depthAfter 0

/-- The token that ends a statement. -/
def semicolon : Token := .symbol ';'

/-- The statements between semicolons, but for the empty ones. The statement at
    hand is kept in reverse. -/
def statementsFrom : List Token → List Token → List (List Token)
  | current, [] => if current = [] then [] else [current.reverse]
  | current, t :: ts =>
      if t = semicolon then
        if current = [] then statementsFrom [] ts else current.reverse :: statementsFrom [] ts
      else statementsFrom (t :: current) ts

/-- The statements of a text, by their tokens at the top level. -/
def statements (ts : List Token) : List (List Token) := statementsFrom [] (topLevel 0 ts)

/-- A token is a word, whatever its case. -/
def Token.isKeyword (keyword : String) : Token → Bool
  | .word w => w.toList.map Char.toLower == keyword.toList
  | _ => false

/-- The number a word writes. -/
def number (w : String) : Option Nat :=
  if w.toList.all Char.isDigit then some (Nat.ofDigitChars 10 w.toList 0) else none

/-- What stands after the number of a limit: a clause that leaves the number of
    rows as it is, in the same query. -/
def isRest : List Token → Bool
  | [] => true
  | t :: ts => (t.isKeyword "offset" || t.isKeyword "for") &&
      ts.all (fun t => !(t.isKeyword "union" || t.isKeyword "intersect" || t.isKeyword "except"))

/-- The number of rows after the word `LIMIT`, where it is written out: alone,
    or behind an offset and a comma. -/
def clauseBound : List Token → Option Nat
  | .word _ :: .symbol ',' :: .word n :: rest => if isRest rest then number n else none
  | .word n :: rest => if isRest rest then number n else none
  | _ => none

/-- The bound of the last limit of a statement. -/
def limitBound (statement : List Token) : Option Nat :=
  if statement.any (Token.isKeyword "limit") then
    clauseBound (statement.reverse.takeWhile (fun t => !t.isKeyword "limit")).reverse
  else none

/-- The bounds of the limits that the statements of a text have at their top
    level. -/
def limitBounds (isWord : Char → Bool) (text : String) : List (Option Nat) :=
  (statements (tokens isWord text)).map limitBound

theorem topLevel_append (d : Int) (ts us : List Token) :
    topLevel d (ts ++ us) = topLevel d ts ++ topLevel (ts.foldl depthAfter d) us := by
  induction ts generalizing d with
  | nil => rfl
  | cons t ts ih =>
      rw [List.cons_append, topLevel, topLevel, List.foldl_cons, ih]
      split_ifs
      · rfl
      · rfl

theorem mem_of_mem_topLevel {d : Int} {ts : List Token} {t : Token} (h : t ∈ topLevel d ts) :
    t ∈ ts := by
  induction ts generalizing d with
  | nil => exact h
  | cons u ts ih =>
      rw [topLevel] at h
      split_ifs at h
      · rcases List.mem_cons.mp h with rfl | h
        · exact List.mem_cons_self
        · exact List.mem_cons_of_mem _ (ih h)
      · exact List.mem_cons_of_mem _ (ih h)

/-- What is in a statement is in the text, or was at hand before. -/
theorem mem_of_mem_statementsFrom {current ts : List Token} {statement : List Token} {t : Token}
    (h : statement ∈ statementsFrom current ts) (ht : t ∈ statement) : t ∈ current ∨ t ∈ ts := by
  induction ts generalizing current with
  | nil =>
      rw [statementsFrom] at h
      split_ifs at h
      · exact absurd h List.not_mem_nil
      · rw [List.mem_singleton.mp h, List.mem_reverse] at ht
        exact .inl ht
  | cons u ts ih =>
      rw [statementsFrom] at h
      split_ifs at h with hsemi hnil
      -- An empty statement is passed over.
      · rcases ih h with hcur | hts
        · exact absurd hcur List.not_mem_nil
        · exact .inr (List.mem_cons_of_mem _ hts)
      · rcases List.mem_cons.mp h with rfl | h
        · exact .inl (List.mem_reverse.mp ht)
        · rcases ih h with hcur | hts
          · exact absurd hcur List.not_mem_nil
          · exact .inr (List.mem_cons_of_mem _ hts)
      · rcases ih h with hcur | hts
        · rcases List.mem_cons.mp hcur with rfl | hcur
          · exact .inr List.mem_cons_self
          · exact .inl hcur
        · exact .inr (List.mem_cons_of_mem _ hts)

theorem mem_of_mem_statements {ts statement : List Token} {t : Token}
    (h : statement ∈ statements ts) (ht : t ∈ statement) : t ∈ ts := by
  rcases mem_of_mem_statementsFrom h ht with hnil | htop
  · exact absurd hnil List.not_mem_nil
  · exact mem_of_mem_topLevel htop

/-- A limit that is read has its word in the text. -/
theorem exists_keyword_of_limitBound {statement : List Token} {n : Nat}
    (h : limitBound statement = some n) : ∃ t ∈ statement, t.isKeyword "limit" = true := by
  rw [limitBound] at h
  split_ifs at h with hany
  exact List.any_eq_true.mp hany

theorem statementsFrom_of_no_semicolon {ts : List Token} (h : semicolon ∉ ts)
    (current : List Token) (hne : current ≠ [] ∨ ts ≠ []) :
    statementsFrom current ts = [current.reverse ++ ts] := by
  induction ts generalizing current with
  | nil =>
      have hcurrent : current ≠ [] := hne.resolve_right (fun h => h rfl)
      rw [statementsFrom, if_neg hcurrent, List.append_nil]
  | cons t ts ih =>
      rw [List.mem_cons, not_or] at h
      rw [statementsFrom, if_neg (Ne.symm h.1), ih h.2 _ (.inl (List.cons_ne_nil _ _)),
        List.reverse_cons, List.append_assoc]
      rfl

/-- Words after a single statement that closes its parentheses are part of
    it. -/
theorem statements_append_of_single {ts : List Token} (hdepth : depth ts = 0)
    (hsingle : semicolon ∉ topLevel 0 ts) (v w : String) :
    statements (ts ++ [.word v, .word w]) = [topLevel 0 ts ++ [.word v, .word w]] := by
  have hwords : topLevel 0 [.word v, .word w] = [.word v, .word w] := rfl
  rw [depth] at hdepth
  rw [statements, topLevel_append, hdepth, hwords,
    statementsFrom_of_no_semicolon _ _ (.inr (by simp))]
  · rfl
  · rw [List.mem_append, not_or]
    exact ⟨hsingle, by simp [semicolon]⟩

theorem toLower_of_isDigit {c : Char} (h : c.isDigit = true) : c.toLower = c := by
  rw [Char.isDigit, Bool.and_eq_true, decide_eq_true_eq, decide_eq_true_eq] at h
  have hupper : ¬ (c.val ≥ 'A'.val ∧ c.val ≤ 'Z'.val) := by
    rintro ⟨hge, -⟩
    exact absurd (UInt32.le_trans hge h.2) (by decide)
  exact dif_neg hupper

/-- A letter in any case is the letter or its capital. -/
theorem eq_or_eq_of_toLower {c lower upper : Char} (h : c.toLower = lower)
    (hcase : lower.val = upper.val + 32) : c = lower ∨ c = upper := by
  by_cases hupper : c.val ≥ 'A'.val ∧ c.val ≤ 'Z'.val
  · right
    have hval : c.toLower.val = c.val + 32 := congrArg Char.val (dif_pos hupper)
    rw [h, hcase] at hval
    exact Char.ext ((UInt32.add_left_inj 32).mp hval.symm)
  · left
    have hval : c.toLower = c := dif_neg hupper
    rw [← h, hval]

/-- A number is not the word `LIMIT`. -/
theorem not_isKeyword_of_number {w : String} {n : Nat} (h : number w = some n) :
    (Token.word w).isKeyword "limit" = false := by
  rw [number] at h
  split_ifs at h with hdigits
  rw [List.all_eq_true] at hdigits
  by_contra hkeyword
  rw [Bool.not_eq_false, Token.isKeyword, beq_iff_eq,
    List.map_congr_left (fun c hc => toLower_of_isDigit (hdigits c hc)), List.map_id'] at hkeyword
  rw [hkeyword] at hdigits
  exact absurd (hdigits 'l' (by decide)) (by decide)

/-- The bound of a limit at the end of a statement. -/
theorem limitBound_append_limit {ts : List Token} {w : String} {n : Nat}
    (h : number w = some n) : limitBound (ts ++ [.word "LIMIT", .word w]) = some n := by
  have hkeyword : (Token.word "LIMIT").isKeyword "limit" = true := by decide
  have hnumber := not_isKeyword_of_number h
  rw [limitBound, if_pos (by simp [hkeyword]), List.reverse_append]
  simp [hkeyword, hnumber, clauseBound, isRest, h]

theorem number_toString (n : Nat) : number (toString n) = some n := by
  have hlist : (toString n).toList = Nat.toDigits 10 n := by
    rw [Nat.toString_eq_repr, Nat.toList_repr]
  have hdigits : (Nat.toDigits 10 n).all Char.isDigit = true := by
    rw [List.all_eq_true]
    exact fun c hc => Nat.isDigit_of_mem_toDigits (by decide) (by decide) hc
  rw [number, hlist, if_pos hdigits, Nat.ofDigitChars_ten_toDigits]

/-- A limit that is added to a text that ends in code is read as one. -/
theorem tokens_append_limit {isWord : Char → Bool} (hblank : isWord ' ' = false)
    (hletters : ∀ c ∈ "LIMIT".toList, isWord c = true)
    (hdigits : ∀ c : Char, c.isDigit = true → isWord c = true) {text : String}
    (hopen : (modeAfter isWord .code text.toList).isOpen = true) (n : Nat) :
    tokens isWord (text ++ " LIMIT " ++ toString n) =
      tokens isWord text ++ [.word "LIMIT", .word (toString n)] := by
  have hwords : (text ++ " LIMIT " ++ toString n).toList =
      text.toList ++ ' ' :: ("LIMIT".toList ++ ' ' :: (toString n).toList) := by
    rw [String.toList_append, String.toList_append, List.append_assoc]
    rfl
  have hnumber : ∀ c ∈ (toString n).toList, isWord c = true := by
    intro c hc
    rw [Nat.toString_eq_repr, Nat.toList_repr] at hc
    exact hdigits c (Nat.isDigit_of_mem_toDigits (by decide) (by decide) hc)
  have hne : (toString n).toList ≠ [] := by
    rw [Nat.toString_eq_repr, ne_eq, String.toList_eq_nil_iff]
    exact Nat.repr_ne_empty
  -- Each of the two words stands behind a blank.
  have hlimit := tokensFrom_of_word isWord (by decide) hletters
  have hword := isOpen_modeAfter_of_word isWord hletters
  rw [tokens, hwords, tokensFrom_append_blank isWord hblank _ _ hopen,
    tokensFrom_append_blank isWord hblank _ _ hword, hlimit,
    tokensFrom_of_word isWord hne hnumber, String.ofList_toList, String.ofList_toList]
  rfl

end Statements

end Sql

end AgenticRag
