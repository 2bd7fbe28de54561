import RecordLayer.Direction
import RecordLayer.Error.Protocol

/-!
# Engine errors

What an engine call, or the runner that made it, can fail with.
-/

namespace RecordLayer

/-- How an engine broke its contract. -/
inductive Misconduct where
  /-- Counts beyond the regions: what was reported, and how long the regions were. -/
  | overreported (direction : Direction) (consumed produced source destination : Nat)
  /-- The TLS implementation takes no byte of a whole record. -/
  | recordRefused
  | other (reason : String)
  deriving DecidableEq

def Misconduct.message : Misconduct → String
  | overreported direction consumed produced source destination =>
    direction.name ++ " 上报 consumed=" ++ toString consumed ++ " produced=" ++ toString produced ++
      "，区域仅有 src=" ++ toString source ++ " dst=" ++ toString destination
  | recordRefused => "rustls 拒绝接收完整记录"
  | other reason => reason

inductive EngineError where
  | protocol (source : ProtocolError)
  | io (source : String)
  | task (reason : String)
  | misbehaved (misconduct : Misconduct)
  deriving DecidableEq

namespace EngineError

def message : EngineError → String
  | protocol source => "TLS 协议错误: " ++ source.message
  | io source => "TLS 引擎 IO 错误: " ++ source
  | task reason => "委托任务执行失败: " ++ reason
  | misbehaved misconduct => "TLS 引擎违反契约: " ++ misconduct.message

def category : EngineError → Category
  | protocol source => source.category
  | io _ | misbehaved _ => .internal
  | task _ => .authentication

/-- The texts of the causes behind the error, nearest first. -/
def causes : EngineError → List String
  | protocol source => [source.message]
  | io source => [source]
  | task _ | misbehaved _ => []

end EngineError

end RecordLayer
