import Declutter.Proofs.Engine.Run

namespace Declutter

/-- What becomes of a page before a pass, and how it then answers. -/
structure Occasion (σ : Type) where
  host : Host σ
  before : σ → σ

/-- What passes one after the other on one page leave behind. -/
structure Played (σ : Type) where
  passes : List (Pass σ)
  engine : Engine
  state : σ

namespace Played

variable {σ : Type}

def preceded (p : Pass σ) (later : Played σ) : Played σ :=
  { later with passes := p :: later.passes }

def reports (x : Played σ) : List Report :=
  x.passes.flatMap Pass.reports

end Played

namespace Engine

variable {σ : Type}

def play (x : Engine) (s : σ) : List (Occasion σ) → Played σ
  | [] => ⟨[], x, s⟩
  | o :: os =>
    let p := x.pass o.host (o.before s)
    .preceded p (p.engine.play p.state os)

/-- The surroundings of passes on one page. -/
def surroundings (x : Engine) (s : σ) : List (Occasion σ) → List Surroundings
  | [] => []
  | o :: os =>
    let p := x.pass o.host (o.before s)
    ⟨σ, o.host, o.before s⟩ :: p.engine.surroundings p.state os

theorem engine_play (x : Engine) (s : σ) (os : List (Occasion σ)) :
    (x.play s os).engine = x.after (x.surroundings s os) := by
  induction os generalizing x s with
  | nil => rfl
  | cons o os ih => exact ih _ _

theorem reports_play (x : Engine) (s : σ) (os : List (Occasion σ)) :
    (x.play s os).reports = (x.run (x.surroundings s os)).flatMap Pass.reports := by
  induction os generalizing x s with
  | nil => rfl
  | cons o os ih => exact congrArg ((x.pass o.host (o.before s)).reports ++ ·) (ih _ _)

end Engine

end Declutter
