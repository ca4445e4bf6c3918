import Cascade.Proofs.Tokenization
import Cascade.Token.Dialogue

/-!
# Un-reading a token changes nothing

Whatever is asked of a lexer, what it reads anew is what it would have read without any un-reading, and
what it reads again is what it read before, at the same place. It can un-read just what it has read
since it un-read something.

Three pieces of state have to agree for that: the last token, whether it was un-read, and how far the
source has been scanned. `Stance` says in which ways they do.

§1 one call; §2 where a dialogue stands; §3 what is read anew; §4 the end of the input; §5 the law.
-/

namespace Cascade

namespace Lexer

variable {first l : Lexer} {turns : List Turn}

/-! ## §1 One call -/

/-- What is scanned is not un-read yet. -/
theorem scan_ok {t : Token} {l' : Lexer} (h : l.scan = (.ok t, l')) :
    l'.rewound = l.rewound ∧ l'.last = some t := by
  unfold scan at h
  split at h <;> cases h <;> exact ⟨rfl, rfl⟩

/-- **Reading where nothing is un-read** reads something new, or fails. -/
theorem ask_next_cases (h : l.rewound = false) :
    (∃ t l', l.ask .next = ⟨.token t, l'⟩ ∧ l'.rewound = false ∧ l'.last = some t) ∨
      ∃ e l', l.ask .next = ⟨.failure e, l'⟩ := by
  simp only [ask, next_of_not_rewound h]
  cases hscan : l.scan with
  | mk result l' =>
    cases result with
    | ok t =>
      obtain ⟨hrewound, hlast⟩ := scan_ok hscan
      exact .inl ⟨t, l', rfl, hrewound.trans h, hlast⟩
    | error e => exact .inr ⟨e, l', rfl⟩

/-- **Reading what is un-read** reads the last token again. -/
theorem next_of_last {t : Token} (hlast : l.last = some t) (hrewound : l.rewound = false) :
    next { l with rewound := true } = (.ok t, l) := by
  obtain ⟨source, rest, position, tokenStart, last, rewound⟩ := l
  cases hlast
  cases hrewound
  rfl

theorem ask_next_of_last {t : Token} (hlast : l.last = some t) (hrewound : l.rewound = false) :
    ask { l with rewound := true } .next = ⟨.token t, l⟩ := by
  rw [ask, next_of_last hlast hrewound]

theorem ask_rewind_of_last {t : Token} (hlast : l.last = some t) (hrewound : l.rewound = false) :
    l.ask .rewind = ⟨.unread, { l with rewound := true }⟩ := by
  simp [ask, rewind, hlast, hrewound]

/-- A token cannot be un-read twice. -/
theorem ask_rewind_of_rewound (h : l.rewound = true) :
    l.ask .rewind = ⟨.refusal .rewindUnavailable, l⟩ := by
  simp [ask, rewind, h]

/-- Where nothing has been read, nothing can be un-read. -/
theorem ask_rewind_of_silent (h : l.last = none) :
    l.ask .rewind = ⟨.refusal .rewindUnavailable, l⟩ := by
  simp [ask, rewind, h]

/-- No call changes the source. -/
theorem source_ask (l : Lexer) (call : Call) : (l.ask call).lexer.source = l.source := by
  cases call with
  | next =>
    have hnext : l.next.2.source = l.source := by
      unfold next scan
      split
      · rfl
      · split <;> rfl
    unfold ask
    dsimp only
    split <;> next heq => rw [← hnext, heq]
  | rewind =>
    have hrewind : l.rewind.2.source = l.source := by
      unfold rewind
      split <;> rfl
    unfold ask
    dsimp only
    split <;> next heq => rw [← hrewind, heq]

/-! ## §2 Where a dialogue stands -/

/-- Reading where nothing is un-read is new. -/
theorem firsts_cons_new {turn : Turn} (hturn : turn.answer.isReading = true)
    (hnot : lastSuccess? turns ≠ some .unread) : firsts (turn :: turns) = turn :: firsts turns := by
  rw [firsts, if_pos (by simp [hturn, hnot])]

/-- What comes after an un-reading is not new. -/
theorem firsts_cons_again (turn : Turn) (h : lastSuccess? turns = some .unread) :
    firsts (turn :: turns) = firsts turns := by
  rw [firsts, if_neg (by simp [h])]

/-- A token that was read anew has been read. -/
theorem mem_of_mem_firsts {turn : Turn} (h : turn ∈ firsts turns) : turn ∈ turns := by
  induction turns with
  | nil => cases h
  | cons other past ih =>
    rw [firsts] at h
    split at h
    · obtain rfl | h := List.mem_cons.mp h
      · exact List.mem_cons_self
      · exact List.mem_cons_of_mem _ (ih h)
    · exact List.mem_cons_of_mem _ (ih h)

/-- **Where a dialogue stands**: nothing has been read; or the token read last stands in the buffer,
and is un-read or not. -/
inductive Stance (first : Lexer) (turns : List Turn) : Prop
  | silent : firsts turns = [] → lastSuccess? turns = none → first.after turns = first →
      Stance first turns
  | given {t : Token} {l : Lexer} {past : List Turn} : firsts turns = ⟨.token t, l⟩ :: past →
      l.rewound = false → l.last = some t → lastSuccess? turns = some (.token t) →
      first.after turns = l → Stance first turns
  | taken {t : Token} {l : Lexer} {past : List Turn} : firsts turns = ⟨.token t, l⟩ :: past →
      l.rewound = false → l.last = some t → lastSuccess? turns = some .unread →
      first.after turns = { l with rewound := true } → Stance first turns

/-- **Nothing read, nothing un-read**: so every dialogue begins. -/
structure Fresh (first : Lexer) : Prop where
  rewound : first.rewound = false
  last : first.last = none

theorem fresh_ofSource (source : String) : (ofSource source).Fresh := ⟨rfl, rfl⟩

/-- Something new was read. -/
theorem Stance.token {t : Token} (hnot : lastSuccess? turns ≠ some .unread)
    (hrewound : l.rewound = false) (hlast : l.last = some t) :
    Stance first (⟨.token t, l⟩ :: turns) := by
  exact .given (firsts_cons_new rfl hnot) hrewound hlast rfl rfl

/-- **One more call.** -/
theorem Stance.ask (hfirst : first.Fresh) (h : Stance first turns) (call : Call)
    (hopen : stopped ((first.after turns).ask call :: turns) = false) :
    Stance first ((first.after turns).ask call :: turns) := by
  -- both calls in each stance; only a reading with nothing un-read can fail
  cases h with
  | silent hfirsts hlast hafter =>
    rw [hafter] at hopen ⊢
    cases call with
    | next =>
      obtain ⟨t, l, hask, hrewound, hl⟩ | ⟨e, l, hask⟩ := ask_next_cases hfirst.rewound
      · rw [hask]
        exact .token (by rw [hlast]; nofun) hrewound hl
      · rw [hask] at hopen
        cases hopen
    | rewind =>
      rw [ask_rewind_of_silent hfirst.last]
      exact .silent hfirsts hlast rfl
  | @given t l past hfirsts hrewound hl hlast hafter =>
    rw [hafter] at hopen ⊢
    cases call with
    | next =>
      obtain ⟨t', l', hask, hrewound', hl'⟩ | ⟨e, l', hask⟩ := ask_next_cases hrewound
      · rw [hask]
        exact .token (by rw [hlast]; nofun) hrewound' hl'
      · rw [hask] at hopen
        cases hopen
    | rewind =>
      rw [ask_rewind_of_last hl hrewound]
      exact .taken hfirsts hrewound hl rfl rfl
  | @taken t l past hfirsts hrewound hl hlast hafter =>
    rw [hafter] at hopen ⊢
    cases call with
    | next =>
      rw [ask_next_of_last hl hrewound]
      exact .given ((firsts_cons_again _ hlast).trans hfirsts) hrewound hl rfl rfl
    | rewind =>
      rw [ask_rewind_of_rewound rfl]
      exact .taken hfirsts hrewound hl hlast rfl

theorem dialogue_cons {past : List Call} (call : Call) (h : stopped (first.dialogue past) = false) :
    first.dialogue (call :: past) =
      (first.after (first.dialogue past)).ask call :: first.dialogue past := by
  rw [dialogue, if_neg (by simp [h])]

/-- What is asked after reading has failed is not answered. -/
theorem dialogue_cons_of_stopped {past : List Call} (call : Call)
    (h : stopped (first.dialogue past) = true) :
    first.dialogue (call :: past) = first.dialogue past := by
  rw [dialogue, if_pos h]

/-- A dialogue that has not stopped had not stopped before. -/
theorem stopped_tail {past : List Call} {call : Call}
    (h : stopped (first.dialogue (call :: past)) = false) : stopped (first.dialogue past) = false := by
  cases hpast : stopped (first.dialogue past) with
  | false => rfl
  | true =>
    rw [dialogue_cons_of_stopped call hpast, hpast] at h
    cases h

/-- **As long as reading has not failed, a dialogue stands in one of these ways.** -/
theorem stance (hfirst : first.Fresh) (calls : List Call)
    (hopen : stopped (first.dialogue calls) = false) : Stance first (first.dialogue calls) := by
  induction calls with
  | nil => exact .silent rfl rfl rfl
  | cons call past ih =>
    have hpast := stopped_tail hopen
    rw [dialogue_cons call hpast] at hopen ⊢
    exact (ih hpast).ask hfirst call hopen

theorem source_after (first : Lexer) (calls : List Call) :
    (first.after (first.dialogue calls)).source = first.source := by
  induction calls with
  | nil => rfl
  | cons call past ih =>
    cases hpast : stopped (first.dialogue past) with
    | true => rwa [dialogue_cons_of_stopped call hpast]
    | false =>
      rw [dialogue_cons call hpast]
      exact (source_ask _ call).trans ih

/-! ## §3 What is read anew -/

theorem plainly_succ {n : Nat} (h : stopped (first.plainly n) = false) :
    first.plainly (n + 1) = (first.after (first.plainly n)).ask .next :: first.plainly n :=
  dialogue_cons .next h

theorem isReading_ask_next (l : Lexer) : (l.ask .next).answer.isReading = true := by
  unfold ask
  dsimp only
  split <;> rfl

/-- **One more turn has nothing new in it, or what plain reading goes on with.** -/
theorem Stance.firsts_cons (hfirst : first.Fresh) (h : Stance first turns) (call : Call) :
    firsts ((first.after turns).ask call :: turns) = firsts turns ∨
      stopped (firsts turns) = false ∧
        firsts ((first.after turns).ask call :: turns) =
          (first.after (firsts turns)).ask .next :: firsts turns := by
  cases h with
  | silent hfirsts hlast hafter =>
    rw [hafter]
    cases call with
    | next =>
      refine .inr ⟨hfirsts ▸ rfl, ?_⟩
      rw [firsts_cons_new (isReading_ask_next first) (by rw [hlast]; nofun), hfirsts]
      rfl
    | rewind =>
      rw [ask_rewind_of_silent hfirst.last]
      exact .inl rfl
  | given hfirsts hrewound hl hlast hafter =>
    rw [hafter]
    cases call with
    | next =>
      refine .inr ⟨hfirsts ▸ rfl, ?_⟩
      rw [firsts_cons_new (isReading_ask_next _) (by rw [hlast]; nofun), hfirsts]
      rfl
    | rewind =>
      rw [ask_rewind_of_last hl hrewound]
      exact .inl rfl
  | taken hfirsts hrewound hl hlast hafter => exact .inl (firsts_cons_again _ hlast)

/-- **What is read anew is what plain reading reads.** -/
theorem firsts_eq_plainly (hfirst : first.Fresh) (calls : List Call) :
    firsts (first.dialogue calls) = first.plainly (firsts (first.dialogue calls)).length := by
  induction calls with
  | nil => rfl
  | cons call past ih =>
    cases hpast : stopped (first.dialogue past) with
    | true => rwa [dialogue_cons_of_stopped call hpast]
    | false =>
      rw [dialogue_cons call hpast]
      obtain hsame | ⟨hopen, hnew⟩ := (stance hfirst past hpast).firsts_cons hfirst call
      · rwa [hsame]
      · -- what is new follows on all that was new before, and so does one more plain reading
        rw [hnew, List.length_cons]
        generalize firsts (first.dialogue past) = read at ih hopen
        rw [ih] at hopen
        rw [plainly_succ hopen, ← ih]

/-! ## §4 The end of the input -/

/-- **How a lexer stands once it has read to the end of the input.** -/
structure AtEnd (l : Lexer) : Prop where
  last : l.last = some .ending
  rest : l.rest = []
  place : l.tokenStart = l.position

theorem atEnd_of_scan {t : Token} {l' : Lexer} (h : l.scan = (.ok t, l'))
    (ht : t.kind = .endOfInput) : l'.AtEnd := by
  unfold scan at h
  split at h
  · next hscan =>
    cases h
    exact absurd ht (Scan.lexical_of_next hscan).kind_ne_endOfInput
  · cases h
    exact ⟨rfl, rfl, rfl⟩
  · cases h

/-- Behind the end of the input comes the end of the input. -/
theorem AtEnd.ask_next (h : l.AtEnd) (hrewound : l.rewound = false) :
    l.ask .next = ⟨.token .ending, l⟩ := by
  obtain ⟨source, rest, position, tokenStart, last, rewound⟩ := l
  obtain ⟨hlast, hrest, hplace⟩ := h
  cases hlast
  cases hrest
  cases hplace
  cases hrewound
  rfl

/-- Plain reading leaves nothing un-read. -/
theorem rewound_plainly (hfirst : first.Fresh) {n : Nat} (hopen : stopped (first.plainly n) = false) :
    (first.after (first.plainly n)).rewound = false := by
  induction n with
  | zero => exact hfirst.rewound
  | succ n ih =>
    have hn := stopped_tail hopen
    rw [plainly_succ hn] at hopen ⊢
    obtain ⟨t, l, hask, hrewound, -⟩ | ⟨e, l, hask⟩ := ask_next_cases (ih hn)
    · rw [hask]
      exact hrewound
    · rw [hask] at hopen
      cases hopen

/-- **A lexer that has read the end of the input stands there.** -/
theorem atEnd_of_plainly (hfirst : first.Fresh) {n : Nat} {t : Token} {past : List Turn}
    (h : first.plainly n = ⟨.token t, l⟩ :: past) (ht : t.kind = .endOfInput) : l.AtEnd := by
  induction n with
  | zero => cases h
  | succ n ih =>
    cases hn : stopped (first.plainly n) with
    | true => exact ih ((dialogue_cons_of_stopped .next hn).symm.trans h)
    | false =>
      rw [plainly_succ hn] at h
      have hask := (List.cons.inj h).1
      simp only [ask, next_of_not_rewound (rewound_plainly hfirst hn)] at hask
      cases hscan : (first.after (first.plainly n)).scan with
      | mk result l' =>
        rw [hscan] at hask
        cases result with
        | ok t' =>
          cases hask
          exact atEnd_of_scan hscan ht
        | error e => cases hask

/-- The end of the input is read again for ever. -/
theorem plainly_succ_of_ending (hfirst : first.Fresh) {n : Nat} {t : Token} {past : List Turn}
    (h : first.plainly n = ⟨.token t, l⟩ :: past) (ht : t.kind = .endOfInput) :
    first.plainly (n + 1) = ⟨.token .ending, l⟩ :: first.plainly n := by
  have hopen : stopped (first.plainly n) = false := by
    rw [h]
    rfl
  have hrewound := rewound_plainly hfirst hopen
  have hafter : first.after (first.plainly n) = l := by
    rw [h]
    rfl
  rw [hafter] at hrewound
  rw [plainly_succ hopen, hafter, (atEnd_of_plainly hfirst h ht).ask_next hrewound]

/-! ## §5 The law -/

end Lexer

open Lexer in
/-- **Un-reading is transparent.** Whatever calls are made of a lexer on whatever source, up to the
first reading that fails: the turns in which it read something new are those of plain reading, so the
tokens are the same in the same order, at the same places, and so is the failure. Plain reading that
has come to the end of the input stays there. The last token can be un-read just if some token has been
read and the last call that succeeded was a reading; and what is read after an un-reading is what was
last read anew, with the same offset and the same excerpt to point at it. -/
theorem rewinding_transparent (source : String) (calls : List Call) :
    let first := Lexer.ofSource source
    let turns := first.dialogue calls
    let l := first.after turns
    firsts turns = first.plainly (firsts turns).length ∧
      (∀ n t l' past, first.plainly n = ⟨.token t, l'⟩ :: past → t.kind = .endOfInput →
        first.plainly (n + 1) = ⟨.token .ending, l'⟩ :: first.plainly n) ∧
      (stopped turns = false →
        (l.rewind.1 = .ok () ↔
          (∃ turn ∈ turns, ∃ t, turn.answer = .token t) ∧
            ∃ t, lastSuccess? turns = some (.token t)) ∧
        (lastSuccess? turns = some .unread →
          ∃ t turn again, turn.answer = .token t ∧ (firsts turns).head? = some turn ∧
            l.next = (.ok t, again) ∧ again.tokenStart = turn.lexer.tokenStart ∧
            again.excerpt.render = turn.lexer.excerpt.render)) := by
  intro first turns l
  have hfirst : first.Fresh := fresh_ofSource source
  refine ⟨firsts_eq_plainly hfirst calls,
    fun n t l' past h ht => plainly_succ_of_ending hfirst h ht, fun hopen => ?_⟩
  show (l.rewind.1 = .ok () ↔ _) ∧ _
  cases stance hfirst calls hopen with
  | silent hfirsts hlast hafter =>
    have hl : l = first := hafter
    rw [hl]
    refine ⟨⟨nofun, fun ⟨_, t, ht⟩ => ?_⟩, fun ht => ?_⟩ <;> cases hlast.symm.trans ht
  | @given t l' past hfirsts hrewound hlast' hlast hafter =>
    have hl : l = l' := hafter
    subst hl
    have hread : ⟨.token t, l⟩ ∈ turns := mem_of_mem_firsts (hfirsts ▸ List.mem_cons_self)
    refine ⟨⟨fun _ => ⟨⟨_, hread, t, rfl⟩, t, hlast⟩, fun _ => ?_⟩, fun ht => ?_⟩
    · simp [rewind, hrewound, hlast']
    · cases hlast.symm.trans ht
  | @taken t l' past hfirsts hrewound hlast' hlast hafter =>
    have hl : l = { l' with rewound := true } := hafter
    rw [hl]
    refine ⟨⟨nofun, fun ⟨_, t, ht⟩ => ?_⟩, fun _ => ?_⟩
    · cases hlast.symm.trans ht
    · refine ⟨t, ⟨.token t, l'⟩, l', rfl, ?_, ?_, rfl, rfl⟩
      · exact congrArg List.head? hfirsts
      · exact next_of_last hlast' hrewound

/-- A token that is un-read is read again before a new one, and it cannot be un-read twice. -/
example :
    let turns := (Lexer.ofSource "a + b").dialogue [.next, .next, .rewind, .rewind, .next, .next]
    turns.map Lexer.Turn.answer =
        [.token ⟨.name, "b"⟩, .token ⟨.operator, "+"⟩, .refusal .rewindUnavailable, .unread,
          .token ⟨.operator, "+"⟩, .token ⟨.name, "a"⟩] ∧
      (Lexer.firsts turns).map Lexer.Turn.answer =
        [.token ⟨.name, "b"⟩, .token ⟨.operator, "+"⟩, .token ⟨.name, "a"⟩] := by
  exact ⟨rfl, rfl⟩

end Cascade
