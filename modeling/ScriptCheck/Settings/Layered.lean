import ScriptCheck.Table

/-! Data that comes in layers: what a higher layer leaves open is taken from below. -/

namespace ScriptCheck

class Layered (α : Type) where
  /-- `overlay base top` has everything that `top` sets, and the rest from `base`. -/
  overlay : α → α → α

namespace Layered

instance (α : Type) : Layered (Option α) where
  overlay base top := top.or base

instance (κ α : Type) [DecidableEq κ] : Layered (Table κ α) where
  overlay base top := base.union top

end Layered
end ScriptCheck
