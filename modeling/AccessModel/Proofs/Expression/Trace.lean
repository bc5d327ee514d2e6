import Mathlib.Data.List.Perm.Basic
import AccessModel.Proofs.Expression.Passes

/-!
# The trace of an expression

A reading that succeeds notes one event for each node of its userset. Without the text that stands
beside it an event is a `Mark`: the kind of the node, with the names of a leaf or the number of
children. `Userset.trace` lists the marks of a userset in the order in which the reader notes them
(`traces_readExpression`): a union or an intersection behind its children, and a difference in front
of its two sides.

As some nodes are noted in front of their parts and some behind, a trace need not tell where the
base of a difference ends. It does where every base is a leaf, as in all usersets that are read.
`Userset.ofTrace?` puts a userset together again from such a trace: a mark changes the top of a
stack (`Part.step`), and a whole trace puts its userset on the stack (`Part.Rebuilds`). So the log
alone tells what was read (`Userset.ofTrace?_trace`).
-/

namespace AccessModel

open Text Expression

/-- What an event says of a node, apart from its text. -/
inductive Mark
  | direct
  | computed (relation : String)
  | fromTupleset (tupleset computed : String)
  | union (children : Nat)
  | intersection (children : Nat)
  | difference
  deriving DecidableEq

/-- An event without the text of its node. -/
def ExpressionEvent.mark : ExpressionEvent → Mark
  | .union _ children => .union children
  | .intersection _ children => .intersection children
  | .difference _ => .difference
  | .direct _ => .direct
  | .fromTupleset _ tupleset relation => .fromTupleset tupleset relation
  | .computed relation => .computed relation

namespace Userset

/-- What an event says of this node. -/
def mark : Userset → Mark
  | .direct => .direct
  | .computed relation => .computed relation
  | .fromTupleset tupleset relation => .fromTupleset tupleset relation
  | .union children => .union children.length
  | .intersection children => .intersection children.length
  | .difference .. => .difference

mutual

/-- The marks of a userset in the order in which its nodes are noted. -/
def trace : Userset → List Mark
  | .direct => [mark .direct]
  | .computed relation => [mark (.computed relation)]
  | .fromTupleset tupleset relation => [mark (.fromTupleset tupleset relation)]
  | .union children => traceAll children ++ [mark (.union children)]
  | .intersection children => traceAll children ++ [mark (.intersection children)]
  | .difference base subtract => mark (.difference base subtract) :: (base.trace ++ subtract.trace)

/-- The marks of usersets, one after the other. -/
def traceAll : List Userset → List Mark
  | [] => []
  | t :: ts => t.trace ++ traceAll ts

end

theorem traceAll_eq (ts : List Userset) : traceAll ts = ts.flatMap trace := by
  induction ts with
  | nil => rfl
  | cons t ts ih => rw [traceAll, ih, List.flatMap_cons]

@[simp] theorem trace_union (ts : List Userset) :
    (union ts).trace = ts.flatMap trace ++ [.union ts.length] := by
  rw [trace, traceAll_eq, mark]

@[simp] theorem trace_intersection (ts : List Userset) :
    (intersection ts).trace = ts.flatMap trace ++ [.intersection ts.length] := by
  rw [trace, traceAll_eq, mark]

@[simp] theorem trace_difference (base subtract : Userset) :
    (difference base subtract).trace = .difference :: (base.trace ++ subtract.trace) := by
  rw [trace, mark]

theorem IsAtom.trace_eq {t : Userset} (h : t.IsAtom) : t.trace = [t.mark] := by
  cases t <;> simp_all [IsAtom, kind, trace]

/-- Every node has one mark in the trace. -/
theorem trace_perm (t : Userset) : t.trace.Perm (t.nodes.map mark) := by
  have hall : ∀ ts : List Userset, (∀ t ∈ ts, t.trace.Perm (t.nodes.map mark)) →
      (ts.flatMap trace).Perm ((ts.flatMap nodes).map mark) := by
    intro ts h
    rw [List.map_flatMap]
    exact List.Perm.flatMap_left ts h
  induction t with
  | direct => rfl
  | computed r => rfl
  | fromTupleset t r => rfl
  | union ts ih =>
    rw [trace_union, nodes_union, List.map_cons, mark]
    exact (List.perm_append_singleton _ _).trans ((hall ts ih).cons _)
  | intersection ts ih =>
    rw [trace_intersection, nodes_intersection, List.map_cons, mark]
    exact (List.perm_append_singleton _ _).trans ((hall ts ih).cons _)
  | difference b s hb hs =>
    rw [trace_difference, nodes_difference, List.map_cons, List.map_append, mark]
    exact (hb.append hs).cons _

end Userset

/-! ## What a reading notes -/

/-- Where the computation has a result, its events are the trace of it. -/
def Traces {ε : Type} (x : Traced ExpressionEvent ε Userset) : Prop :=
  ∀ t, x.outcome = .ok t → x.events.map ExpressionEvent.mark = t.trace

theorem events_checkRelationName (mode : Mode) (n e : List Char) :
    (checkRelationName mode n e).events = [] := by
  unfold checkRelationName
  split <;> rfl

theorem traces_readOperand (mode : Mode) (e : List Char) : Traces (readOperand mode e) := by
  intro t h
  unfold readOperand at h ⊢
  cases hf : Subjects.find e with
  | some l =>
    rw [hf] at h
    by_cases hl : mode = .strict ∧ l.isAlone = false
    · simp [hl] at h
    · obtain rfl : .direct = t := by simpa [hl] using h
      simp [hl, ExpressionEvent.mark, Userset.trace, Userset.mark]
  | none =>
    cases hc : cutFirst fromWord e with
    | some p =>
      simp only [hf, hc] at h ⊢
      obtain ⟨_, ha, h⟩ := Traced.outcome_bind_eq_ok_iff.1 h
      obtain ⟨_, hb, h⟩ := Traced.outcome_bind_eq_ok_iff.1 h
      obtain rfl := Except.ok.inj h
      rw [Traced.bind_of_ok ha, Traced.bind_of_ok hb, events_checkRelationName,
        events_checkRelationName]
      rfl
    | none =>
      simp only [hf, hc] at h ⊢
      obtain ⟨_, ha, h⟩ := Traced.outcome_bind_eq_ok_iff.1 h
      obtain rfl := Except.ok.inj h
      rw [Traced.bind_of_ok ha, events_checkRelationName]
      rfl

theorem traces_each {f : List Char → Traced ExpressionEvent ExpressionError Userset}
    {ps : List (List Char)} (hf : ∀ p ∈ ps, Traces (f p)) {ts : List Userset}
    (h : (Traced.each f ps).outcome = .ok ts) :
    (Traced.each f ps).events.map ExpressionEvent.mark = ts.flatMap Userset.trace := by
  induction ps generalizing ts with
  | nil =>
    obtain rfl := Except.ok.inj h
    rfl
  | cons p ps ih =>
    obtain ⟨hp, hps⟩ := List.forall_mem_cons.1 hf
    rw [Traced.each] at h ⊢
    obtain ⟨t, ht, h⟩ := Traced.outcome_bind_eq_ok_iff.1 h
    obtain ⟨us, hus, h⟩ := Traced.outcome_bind_eq_ok_iff.1 h
    obtain rfl := Except.ok.inj h
    rw [Traced.bind_of_ok ht, Traced.bind_of_ok hus]
    simp [hp t ht, ih hps hus]

/-- The reading of several pieces, then the event of what they are combined to. -/
theorem traces_combined {c : List Userset → Userset} {note : List Userset → ExpressionEvent}
    {f : List Char → Traced ExpressionEvent ExpressionError Userset} {ps : List (List Char)}
    (hc : ∀ ts, (c ts).trace = ts.flatMap Userset.trace ++ [(note ts).mark])
    (hf : ∀ p ∈ ps, Traces (f p)) :
    Traces (Traced.each f ps >>= fun ts => Traced.note (note ts) >>= fun _ => pure (c ts)) := by
  intro t h
  obtain ⟨ts, hts, h⟩ := Traced.outcome_bind_eq_ok_iff.1 h
  obtain rfl := Except.ok.inj h
  rw [Traced.bind_of_ok hts, hc, ← traces_each hf hts]
  simp

/-- The events of an expression that is read are the trace of its userset. -/
theorem traces_readExpression (mode : Mode) (s : List Char) : Traces (readExpression mode s) := by
  induction hn : s.length using Nat.strong_induction_on generalizing s with
  | _ n ih =>
  -- the texts that the rules go on to read are shorter
  have shorter : ∀ p : List Char, p.length < (trim s).length → Traces (readExpression mode p) :=
    fun p hp => ih p.length (hn ▸ length_trim_lt hp) p rfl
  rw [readExpression_eq]
  by_cases ho : occurs orOperator (trim s) = true
  · rw [if_pos ho]
    refine traces_combined (fun ts => Userset.trace_union ts) fun p hp => ?_
    exact shorter p (length_lt_of_mem_cutAll ho hp)
  · rw [if_neg ho]
    by_cases ha : occurs andOperator (trim s) = true
    · rw [if_pos ha]
      refine traces_combined (fun ts => Userset.trace_intersection ts) fun p hp => ?_
      exact shorter p (length_lt_of_mem_cutAll ha hp)
    · rw [if_neg ha]
      cases hc : cutFirst butNotOperator (trim s) with
      | none => exact traces_readOperand mode _
      | some p =>
        obtain ⟨a, b⟩ := p
        intro t h
        dsimp only at h ⊢
        obtain ⟨_, -, h⟩ := Traced.outcome_bind_eq_ok_iff.1 h
        obtain ⟨u, hu, h⟩ := Traced.outcome_bind_eq_ok_iff.1 h
        obtain ⟨v, hv, h⟩ := Traced.outcome_bind_eq_ok_iff.1 h
        obtain rfl := Except.ok.inj h
        rw [Traced.note_bind, Traced.bind_of_ok hu, Traced.bind_of_ok hv]
        simp [shorter a (length_fst_lt hc) u hu, shorter b (length_snd_lt hc) v hv,
          ExpressionEvent.mark]

/-! ## Putting a userset together again -/

/-- A part of a userset that is being put together from its trace. -/
inductive Part
  /-- A userset that is complete. -/
  | whole (t : Userset)
  /-- A difference of which neither side is known. -/
  | difference
  /-- A difference whose base is known. -/
  | less (base : Userset)

namespace Part

/-- Puts a userset in its place: it completes the difference on top, and what that difference
completes in turn, or stands by itself. -/
def place (t : Userset) : List Part → List Part
  | .difference :: s => .less t :: s
  | .less base :: s => place (.difference base t) s
  | s => .whole t :: s

/-- The last usersets of a stack, as many as asked for, in front of those given. -/
def gather : Nat → List Userset → List Part → Option (List Userset × List Part)
  | 0, ts, s => some (ts, s)
  | n + 1, ts, .whole t :: s => gather n (t :: ts) s
  | _ + 1, _, _ => none

/-- What a mark makes of a stack. -/
def step (s : List Part) : Mark → Option (List Part)
  | .direct => some (place .direct s)
  | .computed relation => some (place (.computed relation) s)
  | .fromTupleset tupleset relation => some (place (.fromTupleset tupleset relation) s)
  | .union n => (gather n [] s).map fun p => place (.union p.1) p.2
  | .intersection n => (gather n [] s).map fun p => place (.intersection p.1) p.2
  | .difference => some (.difference :: s)

/-- What several marks make of a stack. -/
def steps (s : List Part) (ms : List Mark) : Option (List Part) := ms.foldlM step s

theorem steps_append (s : List Part) (ms ns : List Mark) :
    steps s (ms ++ ns) = (steps s ms).bind fun s' => steps s' ns :=
  List.foldlM_append ..

theorem steps_cons (s : List Part) (m : Mark) (ms : List Mark) :
    steps s (m :: ms) = (step s m).bind fun s' => steps s' ms :=
  List.foldlM_cons ..

@[simp] theorem steps_nil (s : List Part) : steps s [] = some s := rfl

/-- A stack of usersets that are complete. -/
abbrev stack (us : List Userset) : List Part := us.map .whole

theorem place_stack (t : Userset) (us : List Userset) : place t (stack us) = stack (t :: us) := by
  cases us <;> rfl

theorem gather_stack (ts us vs : List Userset) :
    gather ts.length vs (stack (ts.reverse ++ us)) = some (ts ++ vs, stack us) := by
  induction ts using List.reverseRecOn generalizing vs with
  | nil => rfl
  | append_singleton ts t ih =>
    rw [List.length_append, List.length_singleton, List.reverse_append, List.reverse_singleton,
      List.singleton_append, List.cons_append, stack, List.map_cons, gather, ← stack, ih]
    simp

theorem step_of_isAtom {t : Userset} (h : t.IsAtom) (s : List Part) :
    step s t.mark = some (place t s) := by
  cases t <;> simp_all [Userset.IsAtom, Userset.kind, Userset.mark, step]

/-- The trace of a chain puts it in its place, whatever is on the stack. -/
theorem steps_trace_of_isChain {t : Userset} (h : t.IsChain) (s : List Part) :
    steps s t.trace = some (place t s) := by
  induction h generalizing s with
  | @atom t h => rw [h.trace_eq, steps_cons, step_of_isAtom h, Option.bind_some, steps_nil]
  | @difference base subtract hb hs ih =>
    have hdifference : step s .difference = some (.difference :: s) := rfl
    have hbase : step (.difference :: s) base.mark = some (.less base :: s) :=
      step_of_isAtom hb (.difference :: s)
    rw [Userset.trace_difference, hb.trace_eq, List.singleton_append, steps_cons, hdifference,
      Option.bind_some, steps_cons, hbase, Option.bind_some, ih]
    rfl

/-- The trace of the userset puts it on a stack of complete ones. -/
def Rebuilds (t : Userset) : Prop := ∀ us, steps (stack us) t.trace = some (stack (t :: us))

theorem rebuilds_of_isChain {t : Userset} (h : t.IsChain) : Rebuilds t := by
  intro us
  rw [steps_trace_of_isChain h, place_stack]

theorem steps_flatMap_trace {ts : List Userset} (h : ∀ t ∈ ts, Rebuilds t) (us : List Userset) :
    steps (stack us) (ts.flatMap Userset.trace) = some (stack (ts.reverse ++ us)) := by
  induction ts generalizing us with
  | nil => rfl
  | cons t ts ih =>
    obtain ⟨ht, hts⟩ := List.forall_mem_cons.1 h
    rw [List.flatMap_cons, steps_append, ht us, Option.bind_some, ih hts]
    simp

theorem rebuilds_union {ts : List Userset} (h : ∀ t ∈ ts, Rebuilds t) : Rebuilds (.union ts) := by
  intro us
  rw [Userset.trace_union, steps_append, steps_flatMap_trace h, Option.bind_some, steps_cons, step,
    gather_stack]
  simp [place_stack]

theorem rebuilds_intersection {ts : List Userset} (h : ∀ t ∈ ts, Rebuilds t) :
    Rebuilds (.intersection ts) := by
  intro us
  rw [Userset.trace_intersection, steps_append, steps_flatMap_trace h, Option.bind_some, steps_cons,
    step, gather_stack]
  simp [place_stack]

theorem rebuilds_of_isCombined {c : List Userset → Userset} {P : Userset → Prop} {t : Userset}
    (hc : ∀ ts, (∀ t ∈ ts, Rebuilds t) → Rebuilds (c ts)) (hP : ∀ t, P t → Rebuilds t)
    (h : Userset.IsCombined c P t) : Rebuilds t := by
  cases h with
  | one h => exact hP t h
  | several h hn => exact hc _ fun t ht => hP t (h t ht)

end Part

/-- The userset that a trace stands for. -/
def Userset.ofTrace? (ms : List Mark) : Option Userset :=
  match Part.steps [] ms with
  | some [.whole t] => some t
  | _ => none

/-- A userset whose strata are those of an expression is found again in its trace. -/
theorem Userset.ofTrace?_trace {t : Userset}
    (h : IsCombined .union (IsCombined .intersection IsChain) t) : ofTrace? t.trace = some t := by
  have hrebuilds : Part.Rebuilds t :=
    Part.rebuilds_of_isCombined (fun _ => Part.rebuilds_union)
      (fun _ => Part.rebuilds_of_isCombined (fun _ => Part.rebuilds_intersection)
        fun _ => Part.rebuilds_of_isChain) h
  have hsteps : Part.steps [] t.trace = some [.whole t] := hrebuilds []
  rw [ofTrace?, hsteps]

/-- Where the base of a difference may be a union, one trace may stand for two usersets. -/
example :
    let x : Userset := .computed "x"
    let t : Userset := .union [.union [x, .difference x x], x]
    let u : Userset := .union [x, .difference (.union [x, x]) x]
    t.trace = u.trace ∧ t ≠ u := by
  decide

theorem isCombined_of_outcome {mode : Mode} {e : List Char} {t : Userset}
    (h : (readExpression mode e).outcome = .ok t) :
    Userset.IsCombined .union (Userset.IsCombined .intersection Userset.IsChain) t := by
  rw [(outcome_readExpression_eq_ok_iff.1 h).2]
  exact isCombined_passes differenceOperands_ne_nil e

/-- **The trace of an expression tells its userset.** What the reader notes, in either mode, is the
trace of the userset that it comes to, with one event for each node. From the trace alone, without
the texts beside its events, the userset is put together again; so no other userset that is ever
read has the same trace. -/
theorem events_tell_userset {mode : Mode} {e : List Char} {t : Userset}
    (h : (readExpression mode e).outcome = .ok t) :
    (readExpression mode e).events.map ExpressionEvent.mark = t.trace ∧
    t.trace.Perm (t.nodes.map Userset.mark) ∧
    Userset.ofTrace? ((readExpression mode e).events.map ExpressionEvent.mark) = some t ∧
    ∀ mode' e' t', (readExpression mode' e').outcome = .ok t' → t'.trace = t.trace → t' = t := by
  have htrace := traces_readExpression mode e t h
  have hfound := Userset.ofTrace?_trace (isCombined_of_outcome h)
  refine ⟨htrace, t.trace_perm, htrace ▸ hfound, fun mode' e' t' h' he => ?_⟩
  have hfound' := Userset.ofTrace?_trace (isCombined_of_outcome h')
  rw [he, hfound] at hfound'
  exact (Option.some.inj hfound').symm

/-- In this trace the difference comes before its sides, and the intersection and the union come
after their children. Another text with the same trace is read into the same userset. -/
theorem events_tell_userset_mixed :
    let e := "[user] and a but not b but not c or d from p".toList
    let e' := "[] and  a but not b  but not  c or d from   p".toList
    let t : Userset := .union [.intersection [.direct,
      .difference (.computed "a") (.difference (.computed "b") (.computed "c"))],
      .fromTupleset "p" "d"]
    let ms : List Mark := [.direct, .difference, .computed "a", .difference, .computed "b",
      .computed "c", .intersection 2, .fromTupleset "p" "d", .union 2]
    (readExpression .strict e).outcome = .ok t ∧
    (readExpression .strict e).events.map ExpressionEvent.mark = ms ∧
    Userset.ofTrace? ms = some t ∧
    ∀ t', (readExpression .lenient e').outcome = .ok t' → t' = t := by
  intro e e' t ms
  have houtcome : (readExpression .strict e).outcome = .ok t := by decide +kernel
  have hevents' : (readExpression .lenient e').events.map ExpressionEvent.mark = ms := by
    decide +kernel
  have htrace : t.trace = ms := by decide
  obtain ⟨hevents, -, hfound, honly⟩ := events_tell_userset houtcome
  rw [hevents, htrace] at hfound
  refine ⟨houtcome, hevents.trans htrace, hfound, fun t' ht' => honly .lenient e' t' ht' ?_⟩
  rw [← (events_tell_userset ht').1, hevents', htrace]

end AccessModel
