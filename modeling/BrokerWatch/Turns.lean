/-!
# Taking turns

A list of answers to be given one after the other. The last one stays and is given again and again.
-/

namespace BrokerWatch

/-- The next answer and those that are left. -/
def inTurn {α : Type} (whenNone : α) : List α → α × List α
  | [] => (whenNone, [])
  | [answer] => (answer, [answer])
  | answer :: rest => (answer, rest)

end BrokerWatch
