import LexFront.Proofs.Scanner.Tile
import LexFront.Scanner.Session

/-! Scanners at work. `Reachable` holds of the scanners that calls for one more token lead to, and of
no others; the commands of a session lead to no others either. Every one of them stands at a place
that cuts its source, and its next token is the one that the token rules name there. -/
namespace LexFront
open Text Cursor

/-- The scanners that a fresh scanner of a source becomes, one token after the other. -/
inductive Scanner.Reachable (source : String) (config : ScanConfig) (reporting : Bool) :
    Scanner → Prop
  | start : Reachable source config reporting (.start source config reporting)
  | next {s : Scanner} {step : Step} (before : Reachable source config reporting s)
      (token : s.nextToken? = some step) : Reachable source config reporting step.scanner

/-- Where a scanner of a source stands: behind the characters `p` and in front of `q`. -/
structure Scanner.Stands (source : String) (config : ScanConfig) (reporting : Bool) (s : Scanner)
    (p q : List Char) : Prop where
  source_eq : source.toList = p ++ q
  cursor : s.cursor = between p q
  config_eq : s.config = config
  reporting_eq : s.reporting = reporting

/-- **What the next token has to be** for a scanner in front of the blanks `w` and the text `r`: the
end of input if `r` is empty, and otherwise the one lexeme that the token rules find at the start of
`r`. The blanks and the lexeme are what the scanner takes up. -/
structure Scanner.Exact (s : Scanner) (p w r : List Char) (step : Step) : Prop where
  cursor : s.cursor = between p (w ++ r)
  blanks : Longest (fun w => ∀ c ∈ w, c ∈ [' ', '\t', '\n', '\r']) w (w ++ r)
  next : s.nextToken? = some step
  end_iff : step.token = .endOfInput ↔ r = []
  atEnd : r = [] → step.scanner.cursor = between (p ++ w) []
  lexeme : r ≠ [] → ∃ l rest, r = l.chars ++ rest ∧ l.chars ≠ [] ∧
    (∀ l', Reads s.config.numberMode r l' ↔ l' = l) ∧ step.token = l.token ∧
    step.scanner.cursor = between (p ++ w ++ l.chars) rest ∧
    step.scanner.tokenSpan = ⟨byteLength (p ++ w), byteLength (p ++ w ++ l.chars)⟩

theorem longest_blanks {w r : List Char} (hblank : ∀ c ∈ w, isBlank c = true)
    (hstops : ∀ x ∈ r.head?, isBlank x = false) :
    Longest (fun w => ∀ c ∈ w, c ∈ [' ', '\t', '\n', '\r']) w (w ++ r) := by
  have h := longest_takeWhile isBlank (w ++ r)
  rw [takeWhile_append_of_stop hblank hstops] at h
  simpa only [isBlank_eq_true_iff] using h

theorem Step.after_cons (s : Scanner) (r : Step) (steps : List Step) :
    Step.after s (r :: steps) = Step.after r.scanner steps := by
  rw [Step.after, List.getLast?_cons, Step.after]
  cases steps.getLast? <;> rfl

namespace Scanner

section
variable {source : String} {config : ScanConfig} {reporting : Bool} {s : Scanner}
  {p q w r : List Char}

theorem stands_start (source : String) (config : ScanConfig) (reporting : Bool) :
    Stands source config reporting (start source config reporting) [] source.toList :=
  ⟨rfl, start_eq_between source, rfl, rfl⟩

theorem Stands.next {step : Step} (h : Stands source config reporting s p q)
    (hstep : s.nextToken? = some step) :
    ∃ p' q', Stands source config reporting step.scanner p' q' := by
  obtain ⟨ts, hts⟩ := exists_tiled s.config.numberMode q
  obtain ⟨t, ts, rfl⟩ := List.exists_cons_of_ne_nil hts.ne_nil
  rw [nextToken?_of_tiled h.cursor hts] at hstep
  cases hstep
  refine ⟨p ++ t.chars, Tile.row ts, ?_, rfl, h.config_eq, h.reporting_eq⟩
  rw [h.source_eq, ← hts.row_eq, Tile.row_cons, List.append_assoc]

/-- A scanner at work always stands at a place that cuts its source. -/
theorem Reachable.exists_stands (h : Reachable source config reporting s) :
    ∃ p q, Stands source config reporting s p q := by
  induction h with
  | start => exact ⟨_, _, stands_start source config reporting⟩
  | next _ hstep ih =>
    obtain ⟨p, q, hs⟩ := ih
    exact hs.next hstep

/-- A scanner in front of some text has a next token, and it is the right one. -/
theorem exists_exact (hs : s.cursor = between p q) :
    ∃ w r step, q = w ++ r ∧ Exact s p w r step := by
  obtain ⟨w, r, rfl, hblank, hstops⟩ := exists_blanks q
  have hblanks := longest_blanks hblank hstops
  by_cases hr : r = []
  · -- nothing but blanks is left
    subst hr
    have hstep := nextToken?_of_blank (by rwa [List.append_nil] at hs) hblank
    refine ⟨w, [], _, rfl, hs, hblanks, hstep, by simp, ?_, fun h => absurd rfl h⟩
    intro _
    simp [Tile.step, Tile.chars]
  · obtain ⟨l, hreads⟩ : ∃ l, Reads s.config.numberMode r l := ⟨_, reads_read hr⟩
    obtain ⟨rest, rfl⟩ := hreads.starts
    have hstep := nextToken?_of_reads hs hblank hstops hreads
    refine ⟨w, l.chars ++ rest, _, rfl, hs, hblanks, hstep, ?_, fun h => absurd h hr, ?_⟩
    · refine iff_of_false ?_ hr
      exact hreads.token_ne_endOfInput
    · intro _
      refine ⟨l, rest, rfl, hreads.chars_ne_nil, ?_, rfl, by simp [Tile.step, Tile.chars], rfl⟩
      intro l'
      exact ⟨fun h => h.unique hreads, fun h => h ▸ hreads⟩

/-- **The scanner is exact**: wherever a scanner at work stands, the text in front of it is some
blanks and some rest, and its next token is what the token rules find there. -/
theorem Reachable.exists_exact_next (h : Reachable source config reporting s) :
    ∃ p w r step, source.toList = p ++ (w ++ r) ∧ s.config = config ∧ Exact s p w r step := by
  obtain ⟨p, q, hs⟩ := h.exists_stands
  obtain ⟨w, r, step, rfl, hexact⟩ := exists_exact hs.cursor
  exact ⟨p, w, r, step, hs.source_eq, hs.config_eq, hexact⟩

/-- Between a name and a comment without an end, the comment is what has to come next. -/
theorem exists_exact_next_behind_name :
    ∃ s, Reachable "x -*- 1" .default true s ∧ s.cursor.position = 1 ∧
      ∃ p w r step, "x -*- 1".toList = p ++ (w ++ r) ∧ s.config = .default ∧
        Exact s p w r step := by
  have hstops : ∀ c ∈ "x -*- 1".toList.head?, isBlank c = false := by
    have hhead : "x -*- 1".toList.head? = some 'x' := by decide
    rw [hhead]
    rintro _ ⟨⟩
    rfl
  have hstep : (start "x -*- 1" .default true).nextToken? = some _ :=
    nextToken?_between (w := []) (start_eq_between _) (by simp) hstops
  have hreach := Reachable.next .start hstep
  exact ⟨_, hreach, by decide, hreach.exists_exact_next⟩

end

/-! ## Commands -/

section
variable {source : String} {config : ScanConfig} {reporting : Bool} {s : Scanner}

theorem Reachable.nextSteps? {n : Nat} {steps : List Step}
    (h : Reachable source config reporting s) (hsteps : nextSteps? n s = some steps) :
    Reachable source config reporting (Step.after s steps) := by
  induction n generalizing s steps with
  | zero =>
    cases hsteps
    exact h
  | succ n ih =>
    obtain ⟨r, hr, hsteps⟩ := Option.bind_eq_some_iff.1 hsteps
    obtain ⟨rest, hrest, hsteps⟩ := Option.bind_eq_some_iff.1 hsteps
    cases hsteps
    rw [Step.after_cons]
    exact ih (h.next hr) hrest

theorem Reachable.takeSteps? {n : Nat} {steps : List Step}
    (h : Reachable source config reporting s) (hsteps : takeSteps? n s = some steps) :
    Reachable source config reporting (Step.after s steps) := by
  induction n generalizing s steps with
  | zero =>
    cases hsteps
    exact h
  | succ n ih =>
    rw [Scanner.takeSteps?] at hsteps
    split at hsteps
    · cases hsteps
    · rename_i r hr
      split at hsteps
      · cases hsteps
        exact h.next hr
      · obtain ⟨rest, hrest, rfl⟩ := Option.map_eq_some_iff.1 hsteps
        rw [Step.after_cons]
        exact ih (h.next hr) hrest

/-- Whatever a scanner is asked for, it is still a scanner at work afterwards. -/
theorem Reachable.perform? {c : Command} {reply : Reply} {t : Scanner}
    (h : Reachable source config reporting s) (hreply : s.perform? c = some reply)
    (ht : reply.scanner = some t) : Reachable source config reporting t := by
  cases c with
  | nextToken =>
    obtain ⟨r, hr, hreply⟩ := Option.bind_eq_some_iff.1 hreply
    cases hreply
    cases ht
    exact h.next hr
  | next =>
    obtain ⟨r, hr, hreply⟩ := Option.bind_eq_some_iff.1 hreply
    cases hreply
    cases ht
    exact h.next hr
  | take count =>
    obtain ⟨steps, hsteps, hreply⟩ := Option.bind_eq_some_iff.1 hreply
    cases hreply
    cases ht
    exact h.takeSteps? hsteps
  | span =>
    cases hreply
    cases ht
    exact h
  | config =>
    cases hreply
    cases ht
    exact h
  -- the last two commands leave no scanner behind
  | scanAll =>
    obtain ⟨steps, _, hreply⟩ := Option.bind_eq_some_iff.1 hreply
    cases hreply
    cases ht
  | collect =>
    obtain ⟨steps, _, hreply⟩ := Option.bind_eq_some_iff.1 hreply
    cases hreply
    cases ht

/-- Each step of a run is the next step of some scanner at work. -/
theorem Reachable.exists_of_mem_takeSteps? {n : Nat} {steps : List Step}
    (h : Reachable source config reporting s) (hsteps : Scanner.takeSteps? n s = some steps) :
    ∀ r ∈ steps, ∃ u, Reachable source config reporting u ∧ u.nextToken? = some r := by
  induction n generalizing s steps with
  | zero =>
    cases hsteps
    simp
  | succ n ih =>
    rw [Scanner.takeSteps?] at hsteps
    split at hsteps
    · cases hsteps
    · rename_i r hr
      split at hsteps
      · cases hsteps
        exact List.forall_mem_singleton.2 ⟨s, h, hr⟩
      · obtain ⟨rest, hrest, rfl⟩ := Option.map_eq_some_iff.1 hsteps
        exact List.forall_mem_cons.2 ⟨⟨s, h, hr⟩, ih (h.next hr) hrest⟩

/-- What a command has a scanner report is what steps report that are each the next step of some
scanner at work. -/
theorem Reachable.exists_steps_of_perform? {c : Command} {reply : Reply}
    (h : Reachable source config reporting s) (hreply : s.perform? c = some reply) :
    ∃ steps, reply.diagnostics = Step.allDiagnostics steps ∧
      ∀ r ∈ steps, ∃ u, Reachable source config reporting u ∧ u.nextToken? = some r := by
  have hall : ∀ steps, s.steps? = some steps →
      ∀ r ∈ steps, ∃ u, Reachable source config reporting u ∧ u.nextToken? = some r := by
    obtain ⟨p, q, hs⟩ := h.exists_stands
    obtain ⟨ts, hts⟩ := exists_tiled s.config.numberMode q
    intro steps hsteps
    rw [steps?_of_tiled hs.cursor hts] at hsteps
    cases hsteps
    -- a run to the end is as many tokens as there are
    have htake := takeSteps?_of_tiled (Tile.steps s.config s.reporting p ts).length hs.cursor hts
    rw [List.take_length] at htake
    exact h.exists_of_mem_takeSteps? htake
  cases c with
  | nextToken =>
    obtain ⟨r, hr, hreply⟩ := Option.bind_eq_some_iff.1 hreply
    cases hreply
    exact ⟨[r], rfl, List.forall_mem_singleton.2 ⟨s, h, hr⟩⟩
  | next =>
    obtain ⟨r, hr, hreply⟩ := Option.bind_eq_some_iff.1 hreply
    cases hreply
    exact ⟨[r], rfl, List.forall_mem_singleton.2 ⟨s, h, hr⟩⟩
  | take count =>
    obtain ⟨steps, hsteps, hreply⟩ := Option.bind_eq_some_iff.1 hreply
    cases hreply
    exact ⟨steps, rfl, h.exists_of_mem_takeSteps? hsteps⟩
  | span =>
    cases hreply
    exact ⟨[], rfl, by simp⟩
  | config =>
    cases hreply
    exact ⟨[], rfl, by simp⟩
  | scanAll =>
    obtain ⟨steps, hsteps, hreply⟩ := Option.bind_eq_some_iff.1 hreply
    cases hreply
    exact ⟨steps, rfl, hall steps hsteps⟩
  | collect =>
    obtain ⟨steps, hsteps, hreply⟩ := Option.bind_eq_some_iff.1 hreply
    cases hreply
    exact ⟨steps, rfl, hall steps hsteps⟩

theorem Reachable.exists_perform? (h : Reachable source config reporting s) (c : Command) :
    ∃ reply, s.perform? c = some reply := by
  obtain ⟨p, q, hs⟩ := h.exists_stands
  obtain ⟨ts, hts⟩ := exists_tiled s.config.numberMode q
  obtain ⟨t, ts, rfl⟩ := List.exists_cons_of_ne_nil hts.ne_nil
  have hnext := nextToken?_of_tiled hs.cursor hts
  have hsteps := steps?_of_tiled hs.cursor hts
  cases c with
  | nextToken => exact ⟨_, by rw [Scanner.perform?, hnext]; rfl⟩
  | next => exact ⟨_, by rw [Scanner.perform?, hnext]; rfl⟩
  | take count => exact ⟨_, by rw [Scanner.perform?, takeSteps?_of_tiled count hs.cursor hts]; rfl⟩
  | span => exact ⟨_, rfl⟩
  | config => exact ⟨_, rfl⟩
  | scanAll => exact ⟨_, by rw [Scanner.perform?, hsteps]; rfl⟩
  | collect => exact ⟨_, by rw [Scanner.perform?, hsteps]; rfl⟩

end

end Scanner

namespace Session

/-- What holds of each scanner of a session that is not used up, with its index, and of each
diagnostic that was reported. -/
structure Holds (P : Nat → Scanner → Prop) (Q : Diagnostic → Prop) (s : Session) : Prop where
  scanner : ∀ i u, s.scanners[i]? = some (some u) → P i u
  diagnostic : ∀ d ∈ s.handler.diagnostics, Q d

section
variable {P : Nat → Scanner → Prop} {Q : Diagnostic → Prop} {s t : Session}

/-- A command to one scanner keeps what it keeps of that scanner. -/
theorem Holds.step? {i : Nat} {c : Command} {a : Answer}
    (hkeeps : ∀ i u c reply, P i u → u.perform? c = some reply →
      (∀ v, reply.scanner = some v → P i v) ∧ ∀ d ∈ reply.diagnostics, Q d)
    (h : s.Holds P Q) (hstep : s.step? i c = some (a, t)) : t.Holds P Q := by
  rw [Session.step?] at hstep
  split at hstep
  · rename_i scanner hscanner
    obtain ⟨reply, hreply, hstep⟩ := Option.bind_eq_some_iff.1 hstep
    cases hstep
    obtain ⟨hleft, htold⟩ := hkeeps i scanner c reply (h.scanner i scanner hscanner) hreply
    constructor
    · intro j u hu
      -- the scanner that was asked, and those that were not
      by_cases hj : j = i
      · subst hj
        rw [List.getElem?_set_self (List.getElem?_eq_some_iff.1 hscanner).1] at hu
        exact hleft u (Option.some.inj hu)
      · rw [List.getElem?_set_ne (Ne.symm hj)] at hu
        exact h.scanner j u hu
    · exact List.forall_mem_append.2 ⟨h.diagnostic, htold⟩
  · cases hstep
    exact h

/-- What every command keeps, a run of commands does. -/
theorem Holds.run? {cs : List (Nat × Command)} {answers : List (Answer × Nat)}
    (hkeeps : ∀ i u c reply, P i u → u.perform? c = some reply →
      (∀ v, reply.scanner = some v → P i v) ∧ ∀ d ∈ reply.diagnostics, Q d)
    (h : s.Holds P Q) (hrun : s.run? cs = some (answers, t)) : t.Holds P Q := by
  induction cs generalizing s answers with
  | nil =>
    cases hrun
    exact h
  | cons c cs ih =>
    obtain ⟨⟨a, v⟩, hstep, hrun⟩ := Option.bind_eq_some_iff.1 hrun
    obtain ⟨⟨as, w⟩, hrest, hrun⟩ := Option.bind_eq_some_iff.1 hrun
    cases hrun
    exact ih (h.step? hkeeps hstep) hrest

end

/-- Every scanner of a session that is not used up is a scanner at work on some source. -/
def AtWork (s : Session) : Prop :=
  ∀ scanner, some scanner ∈ s.scanners →
    ∃ source config reporting, Scanner.Reachable source config reporting scanner

theorem atWork_iff_holds {s : Session} : s.AtWork ↔
    s.Holds (fun _ u => ∃ source config reporting, Scanner.Reachable source config reporting u)
      fun _ => True := by
  constructor
  · intro h
    exact ⟨fun _ u hu => h u (List.mem_of_getElem? hu), fun _ _ => trivial⟩
  · intro h u hu
    obtain ⟨i, hi⟩ := List.mem_iff_getElem?.1 hu
    exact h.scanner i u hi

/-- No commands, in whatever order, take a scanner to a state that tokens do not lead to. -/
theorem AtWork.run? {s t : Session} {cs : List (Nat × Command)} {answers : List (Answer × Nat)}
    (h : s.AtWork) (hrun : s.run? cs = some (answers, t)) : t.AtWork := by
  rw [atWork_iff_holds] at h ⊢
  refine h.run? ?_ hrun
  rintro i u c reply ⟨source, config, reporting, hu⟩ hreply
  exact ⟨fun v hv => ⟨source, config, reporting, hu.perform? hreply hv⟩, fun _ _ => trivial⟩

theorem atWork_start {fresh : List Scanner}
    (hfresh : ∀ s ∈ fresh, ∃ source config reporting, s = .start source config reporting) :
    (start fresh).AtWork := by
  intro u hu
  obtain ⟨v, hv, huv⟩ := List.mem_map.1 hu
  cases huv
  obtain ⟨source, config, reporting, rfl⟩ := hfresh u hv
  exact ⟨source, config, reporting, .start⟩

theorem AtWork.exists_step? {s : Session} (h : s.AtWork) (i : Nat) (c : Command) :
    ∃ a t, s.step? i c = some (a, t) := by
  rw [Session.step?]
  split
  · rename_i scanner hscanner
    obtain ⟨source, config, reporting, hreach⟩ := h scanner (List.mem_of_getElem? hscanner)
    obtain ⟨reply, hreply⟩ := hreach.exists_perform? c
    exact ⟨_, _, by rw [hreply]; rfl⟩
  · exact ⟨_, _, rfl⟩

theorem AtWork.exists_run? {s : Session} (h : s.AtWork) (cs : List (Nat × Command)) :
    ∃ answers t, s.run? cs = some (answers, t) := by
  induction cs generalizing s with
  | nil => exact ⟨_, _, rfl⟩
  | cons c cs ih =>
    obtain ⟨a, t, hstep⟩ := h.exists_step? c.1 c.2
    obtain ⟨answers, u, hrun⟩ := ih (h.run? (run?_one hstep))
    refine ⟨(a, t.handler.errorCount) :: answers, u, ?_⟩
    simp only [Session.run?, hstep, Option.bind_eq_bind, Option.bind_some, hrun]
    rfl

/-- In a session of fresh scanners the next token of any scanner is the right one, whatever was asked
for before and of whom. -/
theorem exists_exact_of_run? {fresh : List Scanner} {t : Session} {cs : List (Nat × Command)}
    {answers : List (Answer × Nat)} {s : Scanner}
    (hfresh : ∀ s ∈ fresh, ∃ source config reporting, s = .start source config reporting)
    (hrun : (start fresh).run? cs = some (answers, t)) (hs : some s ∈ t.scanners) :
    ∃ p w r step, Scanner.Exact s p w r step := by
  obtain ⟨source, config, reporting, hreach⟩ := (atWork_start hfresh).run? hrun s hs
  obtain ⟨p, q, hstands⟩ := hreach.exists_stands
  obtain ⟨w, r, step, _, hexact⟩ := Scanner.exists_exact hstands.cursor
  exact ⟨p, w, r, step, hexact⟩

end Session

end LexFront
