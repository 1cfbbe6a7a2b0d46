import TapeLang.Proofs.Metered

/-!
# Input as a stream

A run sees its input as bytes with zeros behind them, and of these only as many as it has read: with any other input
that agrees on them the same ticks lead to the same finish (`Runs.feed`). So inputs that are equal as streams give equal
results, with and without a limit. The output grows by one character with each write, a byte by its code
(`Runs.written`).
-/

namespace TapeLang

/-- The byte at each place of an input, with zeros behind its end. -/
def padded (input : List UInt8) (i : Nat) : UInt8 := input[i]?.getD 0

/-- How many bytes were read by the ticks of a log. -/
def reads (log : List Tick) : Nat := log.count (.statement .read)

/-- How many characters were written by the ticks of a log. -/
def writes (log : List Tick) : Nat := log.count (.statement .write)

@[simp] theorem reads_test (log : List Tick) : reads (log ++ [.test]) = reads log := by
  simp [reads, List.count_append]

@[simp] theorem reads_statement (log : List Tick) (s : Statement) :
    reads (log ++ [.statement s]) = reads log + if s = .read then 1 else 0 := by
  simp [reads, List.count_append, List.count_singleton]

@[simp] theorem writes_test (log : List Tick) : writes (log ++ [.test]) = writes log := by
  simp [writes, List.count_append]

@[simp] theorem writes_statement (log : List Tick) (s : Statement) :
    writes (log ++ [.statement s]) = writes log + if s = .write then 1 else 0 := by
  simp [writes, List.count_append, List.count_singleton]

/-! ### Output -/

/-- The output of a memory has `n` characters, each with the code of a byte. -/
def Memory.Wrote (m : Memory) (n : Nat) : Prop := m.output.length = n ∧ ∀ c ∈ m.output.toList, c.toNat < 256

theorem Memory.output_read (m : Memory) : m.read.output = m.output := by
  unfold read
  split <;> rfl

theorem Memory.Wrote.apply {m m' : Memory} {log : List Tick} {s : Statement} (happly : m.apply s = .ok m')
    (h : m.Wrote (writes log)) : m'.Wrote (writes (log ++ [.statement s])) := by
  rw [writes_statement]
  cases s with
  | write =>
    cases happly
    have hcode : ∀ n < 256, (Char.ofNat n).toNat < 256 := by decide +kernel
    refine ⟨by simp [Memory.write, h.1], fun c hc => ?_⟩
    simp only [Memory.write, String.toList_push, List.mem_append, List.mem_singleton] at hc
    rcases hc with hc | rfl
    · exact h.2 c hc
    · exact hcode _ m.tape.get.toNat_lt
  | read =>
    cases happly
    unfold Wrote
    rw [Memory.output_read]
    exact h
  | move d =>
    obtain ⟨-, rfl⟩ := apply_move_eq_ok_iff.1 happly
    exact h
  | _ =>
    cases happly
    exact h

/-! ### Another input -/

/-- The memory with the input `b` instead of its own, of which the reads of a log are gone. -/
def Memory.feed (m : Memory) (b : List UInt8) (log : List Tick) : Memory := { m with input := b.drop (reads log) }

def Finish.feed (b : List UInt8) : Finish → Finish
  | .ended m log => .ended (m.feed b log) log
  | .faulted f log => .faulted f log
  | .refused log => .refused log

@[simp] theorem Finish.log_feed (b : List UInt8) (fin : Finish) : (fin.feed b).log = fin.log := by
  cases fin <;> rfl

@[simp] theorem Finish.answer?_feed (b : List UInt8) (fin : Finish) (limit : Option Nat) :
    (fin.feed b).answer? limit = fin.answer? limit := by
  cases fin <;> rfl

theorem Finish.Short.feed {fin : Finish} (h : fin.Short) (b : List UInt8) : (fin.feed b).Short := by
  cases fin <;> exact h

section

variable {a b : List UInt8} {m m' : Memory} {log : List Tick} {s : Statement}

theorem Memory.input_apply (happly : m.apply s = .ok m') (hm : m.input = a.drop (reads log)) :
    m'.input = a.drop (reads (log ++ [.statement s])) := by
  rw [reads_statement]
  cases s with
  | read =>
    cases happly
    rw [read_eq hm, if_pos rfl]
  | move d =>
    obtain ⟨-, rfl⟩ := apply_move_eq_ok_iff.1 happly
    exact hm
  | _ =>
    cases happly
    exact hm

/-- A statement has the same effect on another input if the byte that it may read is the same. -/
theorem Memory.feed_apply (hm : m.input = a.drop (reads log))
    (hbyte : s = .read → padded a (reads log) = padded b (reads log)) :
    (m.feed b log).apply s = (m.apply s).map (·.feed b (log ++ [.statement s])) := by
  unfold feed
  rw [reads_statement]
  cases s with
  | read =>
    have hbyte : a[reads log]?.getD 0 = b[reads log]?.getD 0 := hbyte rfl
    simp only [apply, read_eq hm, read_eq (m := { m with input := b.drop (reads log) }) rfl, hbyte, if_pos]
    rfl
  | move d =>
    rw [apply_move, apply_move]
    cases m.tape.move d <;> rfl
  | _ => rfl

namespace Runs

variable {limit : Option Nat} {bs : List Block} {log' : List Tick} {fin : Finish}

theorem input_eq (h : Runs limit bs m log (.ended m' log')) (hm : m.input = a.drop (reads log)) :
    m'.input = a.drop (reads log') :=
  h.keeps (P := fun m log => m.input = a.drop (reads log)) (fun happly hm => Memory.input_apply happly hm)
    (fun hm => by rwa [reads_test]) hm rfl

theorem reads_le (h : Runs limit bs m log fin) : reads log ≤ reads fin.log :=
  h.prefix_log.sublist.count_le _

/-- With another input that agrees on the bytes read, the same ticks lead to the same finish. -/
theorem feed (h : Runs limit bs m log fin) (hm : m.input = a.drop (reads log))
    (hagree : ∀ i < reads fin.log, padded a i = padded b i) : Runs limit bs (m.feed b log) log (fin.feed b) := by
  have htest {m : Memory} {log : List Tick} : m.feed b (log ++ [.test]) = m.feed b log := by
    rw [Memory.feed, reads_test]
    rfl
  -- the byte that a statement reads is among those that the log counts in the end
  have hbyte {s : Statement} {l log : List Tick} (hl : reads (l ++ [.statement s]) ≤ reads log)
      (hagree : ∀ i < reads log, padded a i = padded b i) : s = .read → padded a (reads l) = padded b (reads l) := by
    rintro rfl
    rw [reads_statement, if_pos rfl] at hl
    exact hagree _ hl
  induction h with
  | nil => exact .nil
  | refused hno => exact .refused hno
  | plain hgrant happly hrest ih =>
    have hrest' := ih (Memory.input_apply happly hm) hagree
    refine .plain hgrant ?_ hrest'
    rw [Memory.feed_apply hm (hbyte hrest.reads_le hagree), happly]
    rfl
  | fault hgrant happly =>
    refine .fault hgrant ?_
    rw [Memory.feed_apply hm (hbyte (Nat.le_refl _) hagree), happly]
    rfl
  | leave hgrant hcell hrest ih =>
    have hrest' := ih (by rwa [reads_test]) hagree
    rw [htest] at hrest'
    exact .leave hgrant hcell hrest'
  | again hgrant hcell hbody hrest ihBody ihRest =>
    rw [← reads_test] at hm
    have hbody' := ihBody hm fun i hi => hagree i (Nat.lt_of_lt_of_le hi hrest.reads_le)
    rw [htest] at hbody'
    exact .again hgrant hcell hbody' (ihRest (hbody.input_eq hm) hagree)
  | cut hgrant hcell hbody hshort ih =>
    have hbody' := ih (by rwa [reads_test]) hagree
    rw [htest] at hbody'
    exact .cut hgrant hcell hbody' (hshort.feed b)

/-- The output has one character for each write, with the code of a byte. -/
theorem written (h : Runs limit bs m log (.ended m' log')) (hm : m.Wrote (writes log)) : m'.Wrote (writes log') :=
  h.keeps (P := fun m log => m.Wrote (writes log)) (fun happly hm => hm.apply happly) (fun hm => by rwa [writes_test])
    hm rfl

end Runs

end

theorem Memory.start_feed (size : UInt64) (a b : List UInt8) :
    start size b = (start size a).map (·.feed b []) := by
  unfold start
  cases Tape.blank size <;> rfl

theorem Memory.of_start {size : UInt64} {input : List UInt8} {m : Memory} (h : start size input = .ok m) :
    m.input = input ∧ m.output = "" := by
  obtain ⟨t, -, rfl⟩ := start_eq_ok_iff.1 h
  exact ⟨rfl, rfl⟩

namespace Machine

variable {k : Machine} {limit : Option Nat} {body : List Statement} {a b : List UInt8} {log : List Tick}
  {result : Except Fault (Except RunError String)} {fin : Finish}

theorem Finishes.feed (h : k.Finishes limit body a fin) (hagree : ∀ i < reads fin.log, padded a i = padded b i) :
    k.Finishes limit body b (fin.feed b) := by
  unfold Finishes at h ⊢
  rw [Memory.start_feed k.tapeSize a b]
  split at h
  · next m hm =>
    rw [hm]
    exact h.feed (Memory.of_start hm).1 hagree
  · next f hf =>
    subst h
    rw [hf]
    rfl

theorem Comes.feed (h : k.Comes limit body a log result) (hagree : ∀ i < reads log, padded a i = padded b i) :
    k.Comes limit body b log result := by
  obtain ⟨fin, hfin, rfl, hresult⟩ := h
  exact ⟨fin.feed b, hfin.feed hagree, fin.log_feed b, by rwa [fin.answer?_feed]⟩

theorem comes_congr (h : padded a = padded b) : k.Comes limit body a log result ↔ k.Comes limit body b log result :=
  ⟨fun ha => ha.feed fun i _ => congrFun h i, fun hb => hb.feed fun i _ => (congrFun h i).symm⟩

theorem run_congr (h : padded a = padded b) (limit : Nat) : k.run limit body a = k.run limit body b := by
  obtain ⟨log, hlog, -⟩ := comes_run k limit body b
  exact run_eq_iff.2 ⟨log, (comes_congr h).2 hlog⟩

/-- A run sees its input as a stream with zeros behind it: inputs that are equal as streams give the same result or
fault under each limit and without one, and so do inputs that agree on the bytes that a run has read, with a result or
up to the limit. Every character of an output has the code of a byte, and there is one for each write. -/
theorem input_is_stream (k : Machine) (body : List Statement) :
    (∀ a b, padded a = padded b → (∀ limit, k.run limit body a = k.run limit body b) ∧
      (∀ out, k.Yields body a out ↔ k.Yields body b out) ∧ (∀ f, k.Faults body a f ↔ k.Faults body b f) ∧
      (k.Diverges body a ↔ k.Diverges body b)) ∧
    (∀ a, (∀ limit result, k.run limit body a = result ↔ ∃ log, k.Comes (some limit) body a log result) ∧
      (∀ out, k.Yields body a out ↔ ∃ log, k.Comes none body a log (.ok (.ok out))) ∧
      ∀ f, k.Faults body a f ↔ ∃ log, k.Comes none body a log (.error f)) ∧
    (∀ limit a log result, k.Comes limit body a log result → ∀ b, (∀ i < reads log, padded a i = padded b i) →
      k.Comes limit body b log result) ∧
    (∀ limit a log out, k.Comes limit body a log (.ok (.ok out)) →
      out.length = writes log ∧ ∀ c ∈ out.toList, c.toNat < 256) := by
  refine ⟨fun a b h => ⟨run_congr h, fun out => ?_, fun f => ?_, ?_⟩,
    fun a => ⟨fun limit result => run_eq_iff, fun out => yields_iff_comes, fun f => faults_iff_comes⟩,
    fun limit a log result h b hagree => h.feed hagree, ?_⟩
  · simp only [yields_iff_comes, comes_congr h]
  · simp only [faults_iff_comes, comes_congr h]
  · simp only [diverges_iff, run_congr h]
  · rintro limit a log out ⟨fin, hfin, rfl, hanswer⟩
    unfold Finishes at hfin
    split at hfin
    · next m hm =>
      cases fin with
      | ended m' log =>
        cases hanswer
        have hstart : m.Wrote 0 := by simp [Memory.Wrote, (Memory.of_start hm).2]
        exact hfin.written hstart
      | faulted f log => cases hanswer
      | refused log => cases limit <;> cases hanswer
    · next f hf =>
      subst hfin
      cases hanswer

/-- Copying the input up to a zero, a run does not tell the end of the input from zeros. -/
theorem input_is_stream_of_zeros :
    padded [65] = padded [65, 0, 0] ∧ ∀ limit,
      run ⟨1⟩ limit [.read, .loopOpen, .write, .read, .loopClose] [65] =
        run ⟨1⟩ limit [.read, .loopOpen, .write, .read, .loopClose] [65, 0, 0] := by
  have hpadded : padded [65] = padded [65, 0, 0] := by
    funext i
    match i with
    | 0 | 1 | 2 => rfl
    | i + 3 => rfl
  exact ⟨hpadded, ((input_is_stream ⟨1⟩ _).1 _ _ hpadded).1⟩

end Machine

end TapeLang
