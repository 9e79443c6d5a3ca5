import PaddleLink.Game.Session
import PaddleLink.Text.Quoted

namespace PaddleLink

inductive Start where
  | solo
  | host
  | join (id : SessionId)
  | watch (id : SessionId)
  deriving DecidableEq, Repr

def Start.describe : Start → String
  | .solo => "Local"
  | .host => "Host"
  | .join id => "Join(SessionId(" ++ Text.quoted id.text ++ "))"
  | .watch id => "Watch(SessionId(" ++ Text.quoted id.text ++ "))"

def Start.words : Start → List String
  | .solo => ["local"]
  | .host => ["host"]
  | .join id => ["join", id.text]
  | .watch id => ["watch", id.text]

def Start.role : Start → Role
  | .solo => .solo
  | .host => .host
  | .join _ => .peer
  | .watch _ => .observer

end PaddleLink
