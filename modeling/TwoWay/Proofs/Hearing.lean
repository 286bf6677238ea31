import TwoWay.Proofs.Course

/-!
What bodies come to after what they have heard. A condition on the result of a body may speak
of the replies that the body got on its way there: a halt, say, may have to be one of them. It
is asked along each way through the body, and holds of a run against any session that replies
as was assumed.
-/

namespace TwoWay.Body

variable {M α β σ : Type} {hears : Node → Reply → Prop} {ends : List Reply → α → Prop}
  {heard : List Reply}

/-- Whether a body that has `heard` some replies, the latest first, and that `hears` of each
further request only certain replies, comes only to results with which it `ends` well after all
that it then has heard. -/
def Ends (hears : Node → Reply → Prop) (ends : List Reply → α → Prop) :
    List Reply → Body M α → Prop
  | heard, .done a => ends heard a
  | heard, .request node next =>
      ∀ reply, hears node reply → (next reply).Ends hears ends (reply :: heard)
  | heard, .load next => ∀ memory, (next memory).Ends hears ends heard
  | heard, .store _ next => next.Ends hears ends heard
  | _, .stuck => True

/-- What a body has heard before does no harm to a condition that asks for replies. -/
theorem Ends.mono {body : Body M α} {more : List Reply}
    (hmono : ∀ ⦃heard more a⦄, heard ⊆ more → ends heard a → ends more a)
    (h : body.Ends hears ends heard) (hsub : heard ⊆ more) : body.Ends hears ends more := by
  induction body generalizing heard more with
  | done a => exact hmono hsub h
  | request node next ih =>
      exact fun reply hreply => ih reply (h reply hreply) (List.cons_subset_cons reply hsub)
  | load next ih => exact fun memory => ih memory (h memory) hsub
  | store memory next ih => exact ih h hsub
  | stuck => trivial

theorem Ends.bind {ends' : List Reply → β → Prop} {body : Body M α} {f : α → Body M β}
    (h : body.Ends hears ends heard)
    (hf : ∀ heard a, ends heard a → (f a).Ends hears ends' heard) :
    (body >>= f).Ends hears ends' heard := by
  show (body.bind f).Ends hears ends' heard
  induction body generalizing heard with
  | done a => exact hf heard a h
  | request node next ih => exact fun reply hreply => ih reply (h reply hreply)
  | load next ih => exact fun memory => ih memory (h memory)
  | store memory next ih => exact ih h
  | stuck => trivial

theorem Ends.course {session : Session σ M} {body body' : Body M α} {state state' : σ}
    {memory memory' : M} {log : List (Exchange σ M)}
    (hhears : ∀ ⦃node state memory reply state' memory'⦄,
      session node state memory = some (reply, state', memory') → hears node reply)
    (course : Course session body state memory log body' state' memory')
    (hbody : body.Ends hears ends heard) :
    body'.Ends hears ends ((log.map Exchange.reply).reverse ++ heard) := by
  induction course generalizing heard with
  | here => simpa using hbody
  | request hreply _ ih => simpa using ih (hbody _ (hhears hreply))
  | load _ ih => exact ih (hbody _)
  | store _ ih => exact ih hbody

end TwoWay.Body
