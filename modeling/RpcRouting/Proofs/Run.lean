/-! Runs of a system whose steps carry the list of what they do. A run grows at its end, so that
what holds after a step can speak of everything that was done up to it. -/
namespace RpcRouting

inductive Run {S E : Type} (step : S → List E → S → Prop) (s : S) : List E → S → Prop where
  | still : Run step s [] s
  | onward : Run step s before t → step t now u → Run step s (before ++ now) u

namespace Run
variable {S E : Type} {step : S → List E → S → Prop}

theorem single (taken : step s events t) : Run step s events t := .onward .still taken

theorem append (first : Run step s before t) (second : Run step t after u) :
    Run step s (before ++ after) u := by
  induction second with
  | still => simpa only [List.append_nil] using first
  | onward _ taken ih => simpa only [List.append_assoc] using Run.onward ih taken

theorem mono {other : S → List E → S → Prop}
    (weaker : ∀ {s events t}, step s events t → other s events t) (run : Run step s events t) :
    Run other s events t := by
  induction run with
  | still => exact .still
  | onward _ taken ih => exact .onward ih (weaker taken)

theorem invariant {P : S → Prop} (initial : P s)
    (preserves : ∀ {s events t}, P s → step s events t → P t) (run : Run step s events t) : P t := by
  induction run with
  | still => exact initial
  | onward _ taken ih => exact preserves ih taken

end Run
end RpcRouting
