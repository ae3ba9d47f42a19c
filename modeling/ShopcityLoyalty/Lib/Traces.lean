import ShopcityLoyalty.Lib.Runs

/-!
Runs with the labels of their steps: what is said of the labels so far and of the state that they
led to.
-/

namespace ShopcityLoyalty

variable {σ α : Type*}

/-- Steps one after another, each under a label that meets a condition where it is taken. -/
inductive Trace (step : α → σ → σ → Prop) (P : σ → α → Prop) (s : σ) : List α → σ → Prop
  | nil : Trace step P s [] s
  | snoc {labels : List α} {a : α} {t u : σ} (h : Trace step P s labels t) (condition : P t a)
      (last : step a t u) : Trace step P s (labels ++ [a]) u

namespace Trace

variable {step : α → σ → σ → Prop} {P : σ → α → Prop} {s t : σ} {labels : List α}

/-- **The rule for traces**: what holds of no labels and is kept by one step and its label. -/
theorem invariant {I : List α → σ → Prop} (hs : I [] s)
    (hstep : ∀ {labels a t u}, P t a → I labels t → step a t u → I (labels ++ [a]) u)
    (h : Trace step P s labels t) : I labels t := by
  induction h with
  | nil => exact hs
  | snoc _ hp hlast ih => exact hstep hp ih hlast

end Trace

end ShopcityLoyalty
