import LexFront.Proofs.Scanner.Reachable
import LexFront.Proofs.Scanner.RoundTrip
import LexFront.Proofs.Session.Isolation

/-! However tokens are pulled, they come from one stream. A list of tokens tells what a scanner in
front of them answers to any pulls: each takes the next tokens off the list, and there are no
others. At the end of the list the scanner comes to a state that no pull takes it out of. -/
namespace LexFront
open Text Cursor

/-- The calls that pull tokens and leave the scanner in use. -/
inductive Pull where
  | nextToken
  | next
  | take (count : Nat)
  deriving DecidableEq, Repr

namespace Pull

/-- The command that a pull is. -/
def command : Pull → Command
  | .nextToken => .nextToken
  | .next => .next
  | .take n => .take n

/-- How many tokens a pull asks for. -/
def count : Pull → Nat
  | .nextToken => 1
  | .next => 1
  | .take n => n

/-- What is answered to a pull where the tokens `ts` are all that can be had. -/
def answer : Pull → List Token → Answer
  | .nextToken, ts => .token (ts.headD .endOfInput)
  | .next, ts => .optionalToken ts.head?
  | .take _, ts => .tokens ts

/-- What is answered to some pulls from the tokens `ts`: each takes as many as it asks for. -/
def answers : List Pull → List Token → List Answer
  | [], _ => []
  | c :: cs, ts => c.answer (ts.take c.count) :: answers cs (ts.drop c.count)

/-- How many tokens some pulls ask for together. -/
def total (cs : List Pull) : Nat := (cs.map count).sum

/-- Some pulls, as commands to the first scanner of a session. -/
def commands (cs : List Pull) : List (Nat × Command) := cs.map fun c => (0, c.command)

end Pull

/-- The tokens that an answer returns, the end of input left out. -/
def Answer.returned : Answer → List Token
  | .token t => if t.isEnd then [] else [t]
  | .optionalToken t => t.toList
  | .tokens ts => ts.filter (!·.isEnd)
  | _ => []

/-- Whether an answer to a call for one token says that there is none. -/
def Answer.IsEnd (a : Answer) : Prop := a = .token .endOfInput ∨ a = .optionalToken none

/-- **The end is absorbing**: whatever is pulled, the answer is that nothing is left, and the
session stays as it is, with nothing reported and the span behind the last of `size` bytes. -/
structure Session.Ended (size : Nat) (t : Session) : Prop where
  pulls : ∀ cs, t.run? (Pull.commands cs) =
    some (cs.map fun c => (c.answer [], t.handler.errorCount), t)
  span : t.step? 0 .span = some (.span ⟨size, size⟩, t)
  collect : ∃ u, t.step? 0 .collect = some (.tokens [], u) ∧ u.handler = t.handler
  scanAll : ∃ u, t.step? 0 .scanAll = some (.tokens [.endOfInput], u) ∧ u.handler = t.handler

/-- **A walk along a stream**: `answers` and `t` are what the pulls `cs` lead to where the source
has `size` bytes and the tokens `ts`. -/
structure Session.Walked (size : Nat) (ts : List Token) (cs : List Pull)
    (answers : List (Answer × Nat)) (t : Session) : Prop where
  answered : answers.map Prod.fst = Pull.answers cs ts
  returned : answers.flatMap (·.1.returned) = ts.take (Pull.total cs)
  collect : ∃ u, t.step? 0 .collect = some (.tokens (ts.drop (Pull.total cs)), u)
  scanAll : ∃ u, t.step? 0 .scanAll =
    some (.tokens (ts.drop (Pull.total cs) ++ [.endOfInput]), u)
  next_iff : (∃ u, t.step? 0 .next = some (.optionalToken none, u)) ↔
    answers.flatMap (·.1.returned) = ts
  nextToken_iff : (∃ u, t.step? 0 .nextToken = some (.token .endOfInput, u)) ↔
    answers.flatMap (·.1.returned) = ts
  ended : (∃ a ∈ answers, a.1.IsEnd) → Session.Ended size t

/-! ## The stream as a list -/

section
variable {ts : List Token}

theorem Token.ne_endOfInput {t : Token} (h : t.isEnd = false) : t ≠ .endOfInput := by
  rintro rfl
  cases h

theorem filter_proper (h : ∀ t ∈ ts, t.isEnd = false) : ts.filter (!·.isEnd) = ts := by
  rw [List.filter_eq_self]
  intro t ht
  rw [h t ht]
  rfl

theorem Pull.returned_answer (c : Pull) (h : ∀ t ∈ ts, t.isEnd = false) :
    (c.answer (ts.take c.count)).returned = ts.take c.count := by
  cases c with
  | nextToken =>
    cases ts with
    | nil => rfl
    | cons t ts => simp [answer, count, Answer.returned, h t List.mem_cons_self]
  | next => cases ts <;> rfl
  | take n => exact filter_proper fun t ht => h t (List.mem_of_mem_take ht)

/-- Some pulls return the first tokens, each once and in order. -/
theorem Pull.returned_answers (cs : List Pull) (h : ∀ t ∈ ts, t.isEnd = false) :
    (answers cs ts).flatMap Answer.returned = ts.take (total cs) := by
  induction cs generalizing ts with
  | nil => rfl
  | cons c cs ih =>
    have hrest : ∀ t ∈ ts.drop c.count, t.isEnd = false :=
      fun t ht => h t (List.mem_of_mem_drop ht)
    rw [answers, List.flatMap_cons, c.returned_answer h, ih hrest, ← List.take_add]
    rfl

theorem Pull.isEnd_answer_nil {c : Pull} (h : ∀ n, c ≠ .take n) : (c.answer []).IsEnd := by
  cases c with
  | nextToken => exact .inl rfl
  | next => exact .inr rfl
  | take n => exact absurd rfl (h n)

/-- A call for one token says that there is none at the end of the stream only. -/
theorem Pull.isEnd_answer_iff (c : Pull) (h : ∀ t ∈ ts, t.isEnd = false) :
    (c.answer (ts.take c.count)).IsEnd ↔ ts = [] ∧ ∀ n, c ≠ .take n := by
  cases c with
  | nextToken =>
    cases ts with
    | nil => simp [answer, count, Answer.IsEnd]
    | cons t ts =>
      have hne := Token.ne_endOfInput (h t List.mem_cons_self)
      simp [answer, count, Answer.IsEnd, hne]
  | next => cases ts <;> simp [answer, count, Answer.IsEnd]
  | take n => simp [answer, Answer.IsEnd]

end

namespace Scanner

/-! ## The scanner in front of a stream -/

/-- A scanner of a source that stands in front of the tokens `ts`. -/
structure InFront (source : String) (config : ScanConfig) (reporting : Bool) (s : Scanner)
    (ts : List Token) : Prop where
  tiles : ∃ p q us, Stands source config reporting s p q ∧ Tiled config.numberMode q us ∧
    us.map (·.lexeme.token) = ts ++ [.endOfInput]
  proper : ∀ t ∈ ts, t.isEnd = false

/-- The scanner that has returned the end of input. -/
def finish (source : String) (config : ScanConfig) (reporting : Bool) : Scanner where
  cursor := between source.toList []
  config := config
  reporting := reporting
  tokenStart := source.utf8ByteSize
  tokenEnd := source.utf8ByteSize

/-- The step that returns the end of input. -/
def lastStep (source : String) (config : ScanConfig) (reporting : Bool) : Step where
  token := .endOfInput
  scanner := finish source config reporting
  events := [.scannedToken .endOfInput ⟨source.utf8ByteSize, source.utf8ByteSize⟩]
  diagnostics := []

section
variable {source : String} {config : ScanConfig} {reporting : Bool} {s : Scanner}
  {t : Token} {ts : List Token}

/-- A fresh scanner stands in front of all tokens of its source. -/
theorem exists_inFront_start (source : String) (config : ScanConfig) (reporting : Bool) :
    ∃ ts, tokensOf? source config reporting = some (ts ++ [.endOfInput]) ∧
      InFront source config reporting (start source config reporting) ts := by
  obtain ⟨us, hus⟩ := exists_tiled config.numberMode source.toList
  obtain ⟨ts, hts, hwf⟩ := hus.exists_wellFormed
  refine ⟨ts, by rw [tokensOf?_of_tiled hus, hts],
    ⟨_, _, us, stands_start source config reporting, hus, hts⟩, ?_⟩
  intro t ht
  rw [← Bool.not_eq_true, Token.isEnd_eq_true_iff]
  exact (hwf.kind_ne t ht).1

theorem inFront_finish (source : String) (config : ScanConfig) (reporting : Bool) :
    InFront source config reporting (finish source config reporting) [] := by
  refine ⟨⟨source.toList, [], _, ⟨?_, rfl, rfl, rfl⟩, .done (by simp), rfl⟩, by simp⟩
  rw [List.append_nil]

theorem InFront.nextToken?_nil (h : InFront source config reporting s []) :
    s.nextToken? = some (lastStep source config reporting) := by
  obtain ⟨p, q, us, hs, hus, htokens⟩ := h.tiles
  obtain ⟨u, rfl⟩ : ∃ u, us = [u] := by
    have hlength := congrArg List.length htokens
    simpa [List.length_eq_one_iff] using hlength
  obtain ⟨hlexeme, -⟩ | ⟨-, hne⟩ := hus.lexeme_cases
  · have hend : p ++ u.blanks = source.toList := by
      rw [hs.source_eq, ← hus.row_eq]
      simp [Tile.chars, hlexeme]
    have hsize : byteLength source.toList = source.utf8ByteSize := by
      rw [byteLength, String.ofList_toList]
    rw [nextToken?_of_tiled hs.cursor (hs.config_eq ▸ hus), hs.config_eq, hs.reporting_eq]
    simp only [Tile.step, Tile.chars, Tile.span, Lexeme.span, hlexeme, Lexeme.chars_endOfInput,
      List.append_nil, hend, hsize]
    rfl
  · exact absurd rfl hne

/-- In front of some tokens a scanner returns the first, and stands in front of the others. -/
theorem InFront.exists_nextToken?_cons (h : InFront source config reporting s (t :: ts)) :
    ∃ r, s.nextToken? = some r ∧ r.token = t ∧ InFront source config reporting r.scanner ts := by
  obtain ⟨p, q, us, hs, hus, htokens⟩ := h.tiles
  obtain ⟨u, us, rfl⟩ := List.exists_cons_of_ne_nil hus.ne_nil
  rw [List.map_cons, List.cons_append, List.cons.injEq] at htokens
  have hne : us ≠ [] := by
    rintro rfl
    cases ts <;> cases htokens.2
  refine ⟨_, nextToken?_of_tiled hs.cursor (hs.config_eq ▸ hus), htokens.1,
    ⟨p ++ u.chars, Tile.row us, us, ⟨?_, rfl, hs.config_eq, hs.reporting_eq⟩, hus.tail hne,
      htokens.2⟩, ?_⟩
  · rw [hs.source_eq, ← hus.row_eq, Tile.row_cons, List.append_assoc]
  · intro t ht
    exact h.proper t (List.mem_cons_of_mem _ ht)

theorem InFront.exists_takeSteps? (n : Nat) (h : InFront source config reporting s ts) :
    ∃ steps, takeSteps? n s = some steps ∧ Step.properTokens steps = ts.take n ∧
      InFront source config reporting (Step.after s steps) (ts.drop n) := by
  induction n generalizing s ts with
  | zero => exact ⟨[], rfl, rfl, h⟩
  | succ n ih =>
    cases ts with
    | nil =>
      -- one step is made here, but the end it finds is no token of the stream
      refine ⟨[lastStep source config reporting], ?_, rfl, inFront_finish source config reporting⟩
      rw [takeSteps?, h.nextToken?_nil]
      rfl
    | cons t ts =>
      obtain ⟨r, hr, rfl, hnext⟩ := h.exists_nextToken?_cons
      have hend := h.proper r.token List.mem_cons_self
      obtain ⟨steps, hsteps, htokens, hafter⟩ := ih hnext
      refine ⟨r :: steps, by simp [takeSteps?, hr, hend, hsteps], ?_, ?_⟩
      · rw [List.take_succ_cons, ← htokens]
        simp [Step.properTokens, Step.tokens, hend]
      · rw [Step.after_cons]
        exact hafter

/-- What is left of a stream is what a scan to the end returns. -/
theorem InFront.exists_steps? (h : InFront source config reporting s ts) :
    ∃ steps, s.steps? = some steps ∧ Step.tokens steps = ts ++ [.endOfInput] := by
  obtain ⟨p, q, us, hs, hus, htokens⟩ := h.tiles
  exact ⟨_, steps?_of_tiled hs.cursor (hs.config_eq ▸ hus), by rw [Tile.tokens_steps, htokens]⟩

theorem InFront.exists_nextToken? (h : InFront source config reporting s ts) :
    ∃ r, s.nextToken? = some r ∧ r.token = (ts.take 1).headD .endOfInput ∧
      (if r.token.isEnd then none else some r.token) = (ts.take 1).head? ∧
      InFront source config reporting r.scanner (ts.drop 1) ∧
      (ts = [] → r.scanner = finish source config reporting) := by
  cases ts with
  | nil =>
    exact ⟨_, h.nextToken?_nil, rfl, rfl, inFront_finish source config reporting, fun _ => rfl⟩
  | cons t ts =>
    obtain ⟨r, hr, rfl, hnext⟩ := h.exists_nextToken?_cons
    refine ⟨r, hr, rfl, ?_, hnext, fun hnil => absurd hnil (List.cons_ne_nil _ _)⟩
    rw [h.proper r.token List.mem_cons_self]
    rfl

/-- **One pull**: it is answered from the tokens in front of the scanner, and takes these away. A
call for one token that finds none brings the scanner to its end. -/
theorem InFront.exists_perform? (c : Pull) (h : InFront source config reporting s ts) :
    ∃ u ds, s.perform? c.command = some ⟨c.answer (ts.take c.count), some u, ds⟩ ∧
      InFront source config reporting u (ts.drop c.count) ∧
      ((c.answer (ts.take c.count)).IsEnd → u = finish source config reporting) := by
  obtain ⟨r, hr, htoken, hoptional, hnext, hfinish⟩ := h.exists_nextToken?
  have hend := c.isEnd_answer_iff h.proper
  cases c with
  | nextToken =>
    refine ⟨r.scanner, Step.allDiagnostics [r], ?_, hnext, fun hnone => hfinish (hend.1 hnone).1⟩
    rw [Pull.answer, Pull.count, ← htoken, Pull.command, perform?, hr]
    rfl
  | next =>
    refine ⟨r.scanner, Step.allDiagnostics [r], ?_, hnext, fun hnone => hfinish (hend.1 hnone).1⟩
    rw [Pull.answer, Pull.count, ← hoptional, Pull.command, perform?, hr]
    rfl
  | take n =>
    obtain ⟨steps, hsteps, htokens, hafter⟩ := h.exists_takeSteps? n
    refine ⟨_, Step.allDiagnostics steps, ?_, hafter, fun hnone => absurd rfl ((hend.1 hnone).2 n)⟩
    rw [Pull.answer, Pull.count, ← htokens, Pull.command, perform?, hsteps]
    rfl

theorem InFront.exists_perform?_scanAll (h : InFront source config reporting s ts) :
    ∃ ds, s.perform? .scanAll = some ⟨.tokens (ts ++ [.endOfInput]), none, ds⟩ := by
  obtain ⟨steps, hsteps, htokens⟩ := h.exists_steps?
  exact ⟨Step.allDiagnostics steps, by rw [perform?, hsteps, ← htokens]; rfl⟩

theorem InFront.exists_perform?_collect (h : InFront source config reporting s ts) :
    ∃ ds, s.perform? .collect = some ⟨.tokens ts, none, ds⟩ := by
  obtain ⟨steps, hsteps, htokens⟩ := h.exists_steps?
  have hproper : Step.properTokens steps = ts := by
    rw [Step.properTokens, htokens, List.filter_append, filter_proper h.proper]
    exact List.append_nil ts
  exact ⟨Step.allDiagnostics steps, by rw [perform?, hsteps, ← hproper]; rfl⟩

/-! ## The end -/

theorem nextToken?_finish (source : String) (config : ScanConfig) (reporting : Bool) :
    (finish source config reporting).nextToken? = some (lastStep source config reporting) :=
  (inFront_finish source config reporting).nextToken?_nil

theorem steps?_finish (source : String) (config : ScanConfig) (reporting : Bool) :
    (finish source config reporting).steps? = some [lastStep source config reporting] :=
  steps?_of_isEnd (nextToken?_finish source config reporting) rfl

theorem perform?_finish (source : String) (config : ScanConfig) (reporting : Bool) (c : Pull) :
    (finish source config reporting).perform? c.command =
      some ⟨c.answer [], some (finish source config reporting), []⟩ := by
  cases c with
  | nextToken =>
    rw [Pull.command, perform?, nextToken?_finish]
    rfl
  | next =>
    rw [Pull.command, perform?, nextToken?_finish]
    rfl
  | take n =>
    cases n with
    | zero => rfl
    | succ n =>
      rw [Pull.command, perform?, takeSteps?, nextToken?_finish]
      rfl

end

end Scanner

namespace Session

section
variable {source : String} {config : ScanConfig} {reporting : Bool} {s : Scanner} {ts : List Token}

theorem step?_silent {c : Command} {a : Answer} {u : Option Scanner} (h : Handler)
    (hreply : s.perform? c = some ⟨a, u, []⟩) :
    (Session.mk [some s] h).step? 0 c = some (a, ⟨[u], h⟩) := by
  rw [step?_single h hreply, Handler.report_nil]

theorem ended_finish (h : Handler) :
    Ended source.utf8ByteSize ⟨[some (.finish source config reporting)], h⟩ := by
  have hcollect : (Scanner.finish source config reporting).perform? .collect =
      some ⟨.tokens [], none, []⟩ := by
    rw [Scanner.perform?, Scanner.steps?_finish]
    rfl
  have hscanAll : (Scanner.finish source config reporting).perform? .scanAll =
      some ⟨.tokens [.endOfInput], none, []⟩ := by
    rw [Scanner.perform?, Scanner.steps?_finish]
    rfl
  refine ⟨?_, step?_silent h rfl, ⟨_, step?_silent h hcollect, rfl⟩,
    ⟨_, step?_silent h hscanAll, rfl⟩⟩
  intro cs
  induction cs with
  | nil => rfl
  | cons c cs ih =>
    have hstep := step?_silent h (Scanner.perform?_finish source config reporting c)
    exact run?_append (run?_one hstep) ih

/-- **A run of pulls**: they are answered from the tokens in front of the scanner, one after the
other, and take these away. If one of them came upon the end, the scanner is at its end. -/
theorem exists_run?_of_inFront (h : Handler) (cs : List Pull)
    (hs : s.InFront source config reporting ts) :
    ∃ answers u g, (Session.mk [some s] h).run? (Pull.commands cs) = some (answers, ⟨[some u], g⟩) ∧
      answers.map Prod.fst = Pull.answers cs ts ∧
      u.InFront source config reporting (ts.drop (Pull.total cs)) ∧
      ((∃ a ∈ answers, a.1.IsEnd) → u = .finish source config reporting) := by
  induction cs generalizing s h ts with
  | nil => exact ⟨[], s, h, rfl, rfl, hs, by simp⟩
  | cons c cs ih =>
    obtain ⟨v, ds, hreply, hv, hend⟩ := hs.exists_perform? c
    obtain ⟨answers, u, g, hrun, hanswers, hu, hfinish⟩ := ih (h.report ds) hv
    refine ⟨_, u, g, run?_append (run?_one (step?_single h hreply)) hrun, ?_, ?_, ?_⟩
    · rw [List.map_append, hanswers]
      rfl
    · rw [List.drop_drop] at hu
      exact hu
    · rintro ⟨a, ha, hnone⟩
      rcases List.mem_append.1 ha with ha | ha
      · -- from its end on the scanner stays there
        rw [List.mem_singleton.1 ha] at hnone
        rw [hend hnone, (ended_finish (h.report ds)).pulls] at hrun
        cases hrun
        rfl
      · exact hfinish ⟨a, ha, hnone⟩

/-- A call for one token says that there is none if all have been returned. -/
theorem step?_isEnd_iff {c : Pull} (h : Handler) (hs : s.InFront source config reporting ts)
    (hc : ∀ n, c ≠ .take n) :
    (∃ u, (Session.mk [some s] h).step? 0 c.command = some (c.answer [], u)) ↔ ts = [] := by
  obtain ⟨v, ds, hreply, -, -⟩ := hs.exists_perform? c
  rw [step?_single h hreply]
  constructor
  · rintro ⟨u, hu⟩
    have hanswer : c.answer (ts.take c.count) = c.answer [] :=
      congrArg Prod.fst (Option.some.inj hu)
    have hnone : (c.answer (ts.take c.count)).IsEnd := by
      rw [hanswer]
      exact Pull.isEnd_answer_nil hc
    exact ((c.isEnd_answer_iff hs.proper).1 hnone).1
  · rintro rfl
    rw [List.take_nil]
    exact ⟨_, rfl⟩

/-- **One stream**: however the tokens of a source are pulled, the answers are those that the list
of its tokens gives. Each token comes once and in order, a scan of what is left returns the rest,
the end is told just where all have been returned, and from there on nothing else is. -/
theorem exists_walked (source : String) (config : ScanConfig) (reporting : Bool) (h : Handler) :
    ∃ ts, Scanner.tokensOf? source config reporting = some (ts ++ [.endOfInput]) ∧
      (∀ t ∈ ts, t.isEnd = false) ∧
      ∀ cs, ∃ answers t,
        (Session.mk [some (.start source config reporting)] h).run? (Pull.commands cs) =
          some (answers, t) ∧
        Walked source.utf8ByteSize ts cs answers t := by
  obtain ⟨ts, htokens, hstart⟩ := Scanner.exists_inFront_start source config reporting
  refine ⟨ts, htokens, hstart.proper, ?_⟩
  intro cs
  obtain ⟨answers, u, g, hrun, hanswers, hu, hfinish⟩ := exists_run?_of_inFront h cs hstart
  have hreturned : answers.flatMap (·.1.returned) = ts.take (Pull.total cs) := by
    rw [← Pull.returned_answers cs hstart.proper, ← hanswers, List.flatMap_map]
  -- all have been returned exactly if none is left
  have hall : answers.flatMap (·.1.returned) = ts ↔ ts.drop (Pull.total cs) = [] := by
    rw [hreturned, List.drop_eq_nil_iff]
    refine ⟨?_, List.take_of_length_le⟩
    intro htake
    have hle := List.length_take_le (Pull.total cs) ts
    rwa [htake] at hle
  obtain ⟨ds, hcollect⟩ := hu.exists_perform?_collect
  obtain ⟨es, hscanAll⟩ := hu.exists_perform?_scanAll
  refine ⟨answers, _, hrun, hanswers, hreturned, ⟨_, step?_single g hcollect⟩,
    ⟨_, step?_single g hscanAll⟩, ?_, ?_, ?_⟩
  · rw [hall]
    exact step?_isEnd_iff (c := .next) g hu fun _ => Pull.noConfusion
  · rw [hall]
    exact step?_isEnd_iff (c := .nextToken) g hu fun _ => Pull.noConfusion
  · intro hend
    rw [hfinish hend]
    exact ended_finish g

/-- Two tokens, pulled one way and the other, and three pulls behind them. -/
theorem exists_walked_past_end :
    ∃ answers t, (Session.mk [some (.start "a ~" .default true)] .empty).run?
        (Pull.commands [.take 1, .next, .next, .take 4, .nextToken]) = some (answers, t) ∧
      answers.map Prod.fst = [.tokens [⟨.literal, "a"⟩], .optionalToken (some ⟨.illegal, "~"⟩),
        .optionalToken none, .tokens [], .token .endOfInput] ∧
      Ended 3 t := by
  obtain ⟨ts, htokens, _, hwalk⟩ := exists_walked "a ~" .default true .empty
  obtain ⟨answers, t, hrun, hwalked⟩ := hwalk [.take 1, .next, .next, .take 4, .nextToken]
  have hseen : Scanner.tokensOf? "a ~" .default true =
      some ([⟨.literal, "a"⟩, ⟨.illegal, "~"⟩] ++ [.endOfInput]) := by decide +kernel
  rw [htokens, Option.some.injEq] at hseen
  obtain rfl := List.append_cancel_right hseen
  have hnone : .optionalToken none ∈ answers.map Prod.fst := by
    rw [hwalked.answered]
    decide
  obtain ⟨a, ha, hend⟩ := List.mem_map.1 hnone
  exact ⟨answers, t, hrun, hwalked.answered, hwalked.ended ⟨a, ha, .inr hend⟩⟩

end

end Session

end LexFront
