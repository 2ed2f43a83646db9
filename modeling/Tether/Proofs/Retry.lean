import Tether.Retry

/-! How long a retry loop goes on: up to its first success, or until its attempts run out. -/

namespace Tether.Retry

variable {ε α : Type} {plan : Plan}

theorem limit_le_counterMax (plan : Plan) : plan.limit.toNat ≤ counterMax :=
  Nat.le_sub_one_of_lt plan.limit.toNat_lt

end Tether.Retry
