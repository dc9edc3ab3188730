import TextTemplate.Template.Token
/-!
# Taking a template apart

The scan goes through a template from the left. Where two opening braces stand and two closing ones
follow on the same line, there is a placeholder, and it ends at the first two closing braces. All
other characters are literal, and neighbouring literal characters make one literal. A pair of
opening braces that is not closed on its line is literal as well: the scan goes on with its second
brace, which may itself begin a pair.
-/

namespace TextTemplate

namespace Template

/-- What stands before the first two closing braces and what follows them, when they come before
the end of the line. -/
def upToClosing? : Text → Option (Text × Text)
  | [] => none
  | '}' :: '}' :: rest => some ([], rest)
  | c :: rest =>
    if Text.isLineTerminator c then none
    else (upToClosing? rest).map fun (raw, after) ↦ (c :: raw, after)

/-- Nothing is lost around the closing braces. -/
theorem eq_of_upToClosing? {text raw after : Text} (h : upToClosing? text = some (raw, after)) :
    text = raw ++ Token.closing ++ after := by
  fun_induction upToClosing? text generalizing raw after with
  | case1 => simp at h
  | case2 rest =>
    simp only [Option.some.injEq, Prod.mk.injEq] at h
    simp [← h.1, ← h.2, Token.closing]
  | case3 => simp at h
  | case4 c rest _ _ ih =>
    simp only [Option.map_eq_some_iff, Prod.exists, Prod.mk.injEq] at h
    obtain ⟨raw', after', hrest, rfl, rfl⟩ := h
    simp [ih hrest]

/-- The tokens with one more literal character in front. -/
def consLiteral (c : Char) : List Token → List Token
  | .literal text :: tokens => .literal (c :: text) :: tokens
  | tokens => .literal [c] :: tokens

@[simp] theorem sourceOf_consLiteral (c : Char) (tokens : List Token) :
    Token.sourceOf (consLiteral c tokens) = c :: Token.sourceOf tokens := by
  fun_cases consLiteral c tokens <;> simp [Token.source]

/-- The tokens of a template. -/
def tokens : Text → List Token
  | [] => []
  | '{' :: '{' :: rest =>
    match _h : upToClosing? rest with
    | some (raw, after) => .ofRaw raw :: tokens after
    | none => consLiteral '{' (tokens ('{' :: rest))
  | c :: rest => consLiteral c (tokens rest)
termination_by text => text.length
decreasing_by
  all_goals simp_wf
  have := congrArg List.length (eq_of_upToClosing? _h)
  simp only [List.length_append] at this
  omega

end Template

end TextTemplate
