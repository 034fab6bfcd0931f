import TextCharts.Run.Error

namespace TextCharts

inductive Reply
  | text (body : String)
  | fault (e : FetchError)
  -- The source itself breaks down.
  | panic (message : String)

-- The reply and its delay in milliseconds; `none` never answers.
abbrev Behaviour :=
  Option (Nat × Reply)

-- The behaviour of every locator.
abbrev Source :=
  String → Behaviour

end TextCharts
