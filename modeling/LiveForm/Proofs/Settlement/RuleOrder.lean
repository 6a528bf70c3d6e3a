import LiveForm.Proofs.Engine.LastWriter
import LiveForm.Proofs.Settlement.Runs
import LiveForm.Sample.Order

/-!
# The order in which rules are written

Of the order in which rules are written only that of rules with one priority counts, as the others
are put in order by priority. Rules that are disabled or have no conditions never fire, so they can
stand anywhere or be left out. A form settles alike before and after its rules are rearranged in
such ways.
-/

namespace LiveForm

/-! ### Sorted lists -/

section

variable {α : Type} {key : α → Int} {l m : List α}

/-- Lists that have the same members for each key have the same members. -/
theorem mem_of_ties (hties : ∀ p, l.filter (key · == p) = m.filter (key · == p)) {a : α}
    (ha : a ∈ l) : a ∈ m := by
  have hfilter : a ∈ l.filter (key · == key a) := List.mem_filter.mpr ⟨ha, beq_self_eq_true _⟩
  rw [hties] at hfilter
  exact List.mem_of_mem_filter hfilter

/-- Lists in the order of a key are equal if they have the same members for each key in the same
order. -/
theorem eq_of_ties (hl : l.Pairwise fun a b => key a ≤ key b)
    (hm : m.Pairwise fun a b => key a ≤ key b)
    (hties : ∀ p, l.filter (key · == p) = m.filter (key · == p)) : l = m := by
  induction l generalizing m with
  | nil =>
    refine (List.eq_nil_iff_forall_not_mem.mpr fun a ha => ?_).symm
    exact List.not_mem_nil (mem_of_ties (fun p => (hties p).symm) ha)
  | cons a l ih =>
    cases m with
    | nil => exact absurd (mem_of_ties hties List.mem_cons_self) List.not_mem_nil
    | cons b m =>
      rw [List.pairwise_cons] at hl hm
      have hleast : ∀ c ∈ a :: l, key a ≤ key c :=
        List.forall_mem_cons.mpr ⟨Int.le_refl _, hl.1⟩
      have hleast' : ∀ c ∈ b :: m, key b ≤ key c :=
        List.forall_mem_cons.mpr ⟨Int.le_refl _, hm.1⟩
      have hle := hleast b (mem_of_ties (fun p => (hties p).symm) List.mem_cons_self)
      have hge := hleast' a (mem_of_ties hties List.mem_cons_self)
      have hkey : key b = key a := by omega
      -- both heads have the same key, and are the first with it
      obtain rfl : a = b := by
        have hfirst := hties (key a)
        simp only [List.filter_cons, hkey, beq_self_eq_true, if_true, List.cons.injEq] at hfirst
        exact hfirst.1
      refine congrArg (a :: ·) (ih hl.2 hm.2 fun p => ?_)
      have hp := hties p
      rw [List.filter_cons, List.filter_cons] at hp
      split at hp
      case isTrue => exact List.tail_eq_of_cons_eq hp
      case isFalse => exact hp

end

/-! ### Rules that never fire -/

/-- Whether a rule is enabled and has conditions. Any other rule never fires. -/
def Rule.isLive (r : Rule) : Bool := r.enabled && !r.conditions.isEmpty

/-- A rule whose conditions hold has some. -/
theorem Rule.isLive_of_holds {r : Rule} {data : FormData} (h : r.holds data) :
    r.isLive = r.enabled := by
  rw [holds, Bool.and_eq_true] at h
  rw [isLive, h.1, Bool.and_true]

/-- One list of rules is got from another by steps that keep the order in which rules fire. -/
inductive Rule.Rearranges : List Rule → List Rule → Prop where
  /-- The rules are put in another order, in which those of one priority stand as before. -/
  | permute {rules rules' : List Rule} (hperm : rules.Perm rules')
      (hties : ∀ p, rules.filter (·.priority == p) = rules'.filter (·.priority == p)) :
      Rearranges rules rules'
  /-- A rule that never fires is put in anywhere. -/
  | insert {before behind : List Rule} {r : Rule} (h : ¬r.isLive) :
      Rearranges (before ++ behind) (before ++ r :: behind)
  /-- A rule that never fires is taken out. -/
  | delete {before behind : List Rule} {r : Rule} (h : ¬r.isLive) :
      Rearranges (before ++ r :: behind) (before ++ behind)
  /-- Several such steps are made. -/
  | trans {rules rules' rules'' : List Rule} (h : Rearranges rules rules')
      (h' : Rearranges rules' rules'') : Rearranges rules rules''

/-- Two neighbours of different priorities can change places. -/
theorem Rule.Rearranges.swap {before behind : List Rule} {r r' : Rule}
    (h : r.priority ≠ r'.priority) :
    Rearranges (before ++ r :: r' :: behind) (before ++ r' :: r :: behind) := by
  refine .permute ((List.Perm.swap r' r behind).append_left before) fun p => ?_
  rw [List.filter_append, List.filter_append]
  by_cases hp : r.priority = p
  · have hp' : r'.priority ≠ p := fun heq => h (hp.trans heq.symm)
    simp [hp, hp']
  · simp [List.filter_cons, hp]

/-- Rearranging rules keeps the live ones of each priority in their order. -/
theorem Rule.Rearranges.live {rules rules' : List Rule} (h : Rearranges rules rules') (p : Int) :
    (rules.filter (·.priority == p)).filter (·.isLive) =
      (rules'.filter (·.priority == p)).filter (·.isLive) := by
  have hidle (before behind : List Rule) (r : Rule) (hr : ¬r.isLive) :
      ((before ++ r :: behind).filter (·.priority == p)).filter (·.isLive) =
        ((before ++ behind).filter (·.priority == p)).filter (·.isLive) := by
    by_cases hp : r.priority = p <;> simp [List.filter_append, hp, hr]
  induction h with
  | permute _ hties => rw [hties p]
  | insert hr => exact (hidle _ _ _ hr).symm
  | delete hr => exact hidle _ _ _ hr
  | trans _ _ ih ih' => exact ih.trans ih'

section

variable {rules rules' : RuleSet}

/-- The rules of one priority that fire for some data are the live ones whose conditions hold. -/
theorem RuleSet.filter_fired (rules : RuleSet) (data : FormData) (p : Int) :
    (rules.fired data).filter (·.priority == p) =
      ((rules.rules.filter (·.priority == p)).filter (·.isLive)).filter (·.holds data) := by
  rw [(rules.fired_order data).ties p, List.filter_filter, List.filter_filter]
  refine List.filter_congr fun r _ => ?_
  by_cases h : r.holds data
  · rw [h, Rule.isLive_of_holds h]
    simp [Bool.and_comm]
  · simp [h]

/-- Rearranged rules fire alike. -/
theorem RuleSet.fired_rearranged (h : Rule.Rearranges rules.rules rules'.rules) (data : FormData) :
    rules.fired data = rules'.fired data := by
  refine eq_of_ties (rules.fired_order data).byPriority (rules'.fired_order data).byPriority
    fun p => ?_
  rw [filter_fired, filter_fired, h.live p]

end

/-- An evaluation depends on the rules only by those that fire, in order. -/
theorem priorityEngine_congr {rules rules' : RuleSet} {data : FormData}
    (h : rules.fired data = rules'.fired data) (fields : List Field) :
    (priorityEngine fields rules data).value = (priorityEngine fields rules' data).value := by
  rw [priorityEngine_value, priorityEngine_value, RuleSet.steps, RuleSet.steps, h]

/-- **Only priorities and the order within a priority matter among rules.** For any fields and data,
a form settles alike, in all that settling gives, if its rules are put in another order in which
those of one priority stand as before, and if rules that are disabled or have no conditions are put
in or taken out anywhere. -/
theorem settle_rearranged {rules rules' : RuleSet}
    (h : Rule.Rearranges rules.rules rules'.rules) (fields : List Field) (data : FormData) :
    (settle priorityEngine fields rules data).value =
      (settle priorityEngine fields rules' data).value :=
  settle_congr (fun d => priorityEngine_congr (RuleSet.fired_rearranged h d) fields) data

/-- A rule that hides the note and is not enabled yet. -/
def Sample.noteDraft : Rule where
  id := "note-draft"
  enabled := false
  conditions := [{ fieldId := "qty", operator := .isNotEmpty }]
  actions := [.targeting .hide "pricing_note"]

/-- A rule that requires a coupon, but has no conditions. -/
def Sample.couponAlways : Rule where
  id := "coupon-always"
  actions := [.targeting .require "coupon"]

/-- The rules of the order form, the other way round and among rules that never fire. -/
theorem settle_rearranged_order :
    Rule.Rearranges Sample.order.logic.rules
      [Sample.couponAlways, Sample.largeOrderApproval, Sample.noteDraft, Sample.bulkShipping] ∧
    let data : FormData := .ofList [("qty", .int 12), ("price", .float 9.5), ("total", .int 120)]
    (settle priorityEngine Sample.order.fields Sample.order.logic data).value =
      (settle priorityEngine Sample.order.fields
        { rules := [Sample.couponAlways, Sample.largeOrderApproval, Sample.noteDraft,
          Sample.bulkShipping] } data).value := by
  have hswap : Rule.Rearranges ([] ++ [Sample.bulkShipping, Sample.largeOrderApproval])
      ([] ++ [Sample.largeOrderApproval, Sample.bulkShipping]) := .swap (by decide)
  have hdraft : Rule.Rearranges ([Sample.largeOrderApproval] ++ [Sample.bulkShipping])
      ([Sample.largeOrderApproval] ++ Sample.noteDraft :: [Sample.bulkShipping]) :=
    .insert (by decide)
  have hcoupon : Rule.Rearranges
      ([] ++ [Sample.largeOrderApproval, Sample.noteDraft, Sample.bulkShipping])
      ([] ++ Sample.couponAlways ::
        [Sample.largeOrderApproval, Sample.noteDraft, Sample.bulkShipping]) :=
    .insert (by decide)
  have hall : Rule.Rearranges Sample.order.logic.rules
      [Sample.couponAlways, Sample.largeOrderApproval, Sample.noteDraft, Sample.bulkShipping] :=
    (hswap.trans hdraft).trans hcoupon
  exact ⟨hall, settle_rearranged hall _ _⟩

end LiveForm
