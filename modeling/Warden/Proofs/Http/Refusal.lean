import Warden.Http.Router
/-!
# What a refused request shows

An error reaches a client only through its kind. The kind of an error is
the kind of the cause under all its context lines (`kind_innermost`); the
kind alone fixes the status, the code, the category and the body of the
response (`ofError_eq_of_kind_eq`), so no message, and no context line,
token id, subject or path inside one, is ever sent. A failure is charged to
the server exactly when its kind is `serverError`, the one kind answered
with a `5xx` status (`category_eq_server_iff`).
-/

namespace Warden

namespace Error

/-- The cause under all the context lines of an error. -/
def innermost : Error → Error
  | context _ e => e.innermost
  | e => e

@[simp] theorem innermost_context (line : String) (e : Error) :
    (context line e).innermost = e.innermost := rfl

/-- Context lines keep the kind of the cause they wrap, however deep. -/
theorem kind_innermost (e : Error) : e.innermost.kind = e.kind := by
  induction e with
  | context line e ih => rw [innermost_context, kind_context, ih]
  | _ => rfl

/-- Under all its context lines an error has a cause. -/
theorem innermost_variant_ne_context (e : Error) : e.innermost.variant ≠ "Context" := by
  induction e with
  | context line e ih => rw [innermost_context]; exact ih
  | _ => simp [innermost, variant]

end Error

namespace ErrorKind

/-- Only the server's own failures are answered with a `5xx` status. -/
theorem isServerErrorStatus_status (k : ErrorKind) :
    isServerErrorStatus k.status = (k == serverError) := by
  cases k <;> rfl

end ErrorKind

namespace Error

theorem category_eq_server_iff (e : Error) : e.category = .server ↔ e.kind = .serverError := by
  unfold category
  rw [ErrorKind.isServerErrorStatus_status]
  cases e.kind <;> simp

end Error

namespace Http

/-- A context line changes nothing in the response to an error. -/
@[simp] theorem ofError_context (line : String) (e : Error) :
    Response.ofError (.context line e) = Response.ofError e := rfl

/-- The response to an error is read off its kind alone. -/
theorem ofError_eq_of_kind_eq {e e' : Error} (h : e'.kind = e.kind) :
    Response.ofError e' = Response.ofError e := by
  unfold Response.ofError refusal
  rw [h]

end Http

/-- An error is answered by its kind alone. The kind of an error is the kind
    of the cause under all its context lines; its response parts are the
    kind's status and code; it is charged to the server exactly when its
    kind is `serverError`; its response carries the kind's status and the
    body `{error, error_description}` of the kind's code and fixed
    description; and every error of the same kind, whatever its message
    and context lines, gets the same response. -/
theorem refusals_follow_kind (e : Error) :
    e.kind = e.innermost.kind ∧ e.innermost.variant ≠ "Context" ∧
    e.toHttpResponseParts = (e.kind.status, e.kind.code) ∧
    (e.category = .server ↔ e.kind = .serverError) ∧
    (Http.Response.ofError e).status = e.kind.status ∧
    (Http.Response.ofError e).body = .json (.object [("error", .string e.kind.code),
      ("error_description", .string e.kind.publicDescription)]) ∧
    ∀ e', e'.kind = e.kind → Http.Response.ofError e' = Http.Response.ofError e :=
  ⟨(Error.kind_innermost e).symm, Error.innermost_variant_ne_context e, rfl,
    Error.category_eq_server_iff e, rfl, rfl, fun _ h => Http.ofError_eq_of_kind_eq h⟩

end Warden
