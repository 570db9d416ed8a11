import ShaderLayout.Failure
import ShaderLayout.Notice

/-!
Work that reports: it gives notices on the way and ends in a result or a
failure. A failure ends the work but takes no notice back.
-/

namespace ShaderLayout

structure Report (α : Type) where
  notices : List Notice
  outcome : Except Failure α

namespace Report

/-- Goes on with a result. -/
def andThen (report : Report α) (next : α → Report β) : Report β :=
  match report.outcome with
  | .ok result => ⟨report.notices ++ (next result).notices, (next result).outcome⟩
  | .error failure => ⟨report.notices, .error failure⟩

instance : Monad Report where
  pure result := ⟨[], .ok result⟩
  bind := andThen

/-- A result that is there without any notice. -/
def ofResult (describe : ε → Failure) (result : Except ε α) : Report α :=
  ⟨[], result.mapError describe⟩

def give (notices : List Notice) : Report Unit := ⟨notices, .ok ()⟩

def notice (level : NoticeLevel) (source : NoticeSource) (text : String) : Report Unit :=
  give [⟨level, source, text⟩]

def fail (failure : Failure) : Report α := ⟨[], .error failure⟩

@[simp] theorem outcome_pure (result : α) : (pure result : Report α).outcome = .ok result := rfl

@[simp] theorem outcome_bind (report : Report α) (next : α → Report β) :
    (report >>= next).outcome = report.outcome >>= fun result => (next result).outcome := by
  cases report with
  | mk notices outcome =>
      cases outcome <;> rfl

@[simp] theorem outcome_ofResult (describe : ε → Failure) (result : Except ε α) :
    (ofResult describe result).outcome = result.mapError describe := rfl

end Report

end ShaderLayout
