namespace CysAgi

inductive SgrMode where
  | off
  | sgrHybrid
  | sgrIron
  deriving DecidableEq

structure SgrPolicy where
  enabled : Bool := false
  mode : SgrMode := .off
  requireBeforeAction : Bool := true

structure ResolvedSgrPolicy where
  enabled : Bool
  mode : SgrMode
  requireBeforeAction : Bool

/-- The profile's policy goes before the agent's mode and that before the configured one. -/
def resolveSgrPolicy (sgr : SgrPolicy) (agentMode : SgrMode) (useSgrReasoning : Bool) (defaultMode : SgrMode) :
    ResolvedSgrPolicy :=
  if ¬useSgrReasoning then { enabled := false, mode := .off, requireBeforeAction := true }
  else if sgr.enabled ∧ sgr.mode ≠ .off then
    { enabled := true, mode := sgr.mode, requireBeforeAction := sgr.requireBeforeAction }
  else if agentMode ≠ .off then
    { enabled := true, mode := agentMode, requireBeforeAction := sgr.requireBeforeAction }
  else if defaultMode ≠ .off then
    { enabled := true, mode := defaultMode, requireBeforeAction := sgr.requireBeforeAction }
  else { enabled := false, mode := .off, requireBeforeAction := sgr.requireBeforeAction }

theorem resolveSgrPolicy_enabled_iff (sgr : SgrPolicy) (agentMode : SgrMode) (useSgrReasoning : Bool)
    (defaultMode : SgrMode) :
    (resolveSgrPolicy sgr agentMode useSgrReasoning defaultMode).enabled = true ↔
      (resolveSgrPolicy sgr agentMode useSgrReasoning defaultMode).mode ≠ .off := by
  unfold resolveSgrPolicy
  split
  · simp
  · split
    · rename_i own
      simp [own.2]
    · split
      · rename_i asked
        simp [asked]
      · split
        · rename_i configured
          simp [configured]
        · simp

end CysAgi
