import RecordLayer.Notice
import RecordLayer.Trace

/-!
# Log entries

What an operation tells the host's log. The log of an operation of the record layer is read off its
trace, and that of building a context off its notices, so that it adds nothing to the operations
themselves.
-/

namespace RecordLayer

namespace Log

inductive Level where
  | trace
  | debug
  | info
  deriving DecidableEq

def Level.name : Level → String
  | trace => "trace"
  | debug => "debug"
  | info => "info"

/-- A message with named fields. -/
structure Entry where
  level : Level
  message : String
  fields : List (String × String)
  deriving DecidableEq

/-- The entry of an event, if it has one. -/
def ofEvent? : Event → Option Entry
  | .grown direction before after =>
    some ⟨.trace, "目标缓冲溢出，扩容后重试",
      [("op", direction.name), ("from", toString before), ("to", toString after)]⟩
  | .tasksDone count => some ⟨.trace, "委托任务已就地执行完毕", [("executed", toString count)]⟩
  | .turn seen => some ⟨.trace, "握手推进", [("status", seen.name)]⟩
  | .discarded count =>
    some ⟨.debug, "上一份明文尚未取走，按单槽语义覆盖", [("discarded", toString count)]⟩
  | .call _ | .status _ | .fetched _ | .ran _ => none

def ofEvents (events : List Event) : List Entry :=
  events.filterMap ofEvent?

/-- A list between brackets. -/
def bracketed (items : List String) : String :=
  "[" ++ String.intercalate ", " items ++ "]"

/-- The entry of a notice. -/
def ofNotice : Notice → Entry
  | .versionDropped version =>
    ⟨.debug, "rustls 不支持该协议版本，已忽略", [("version", version.name)]⟩
  | .cipherSkipped name =>
    ⟨.debug, "未知或当前后端不支持的密码套件，已跳过", [("cipher", name)]⟩
  | .nativeChosen backend => ⟨.info, "已选用原生加密后端", [("backend", backend)]⟩
  | .nativeUnavailable backend fallback error =>
    ⟨.info, "原生加密后端不可用，回退到可移植后端",
      [("backend", backend), ("fallback", fallback), ("error", error.message)]⟩
  | .nativePanicked backend fallback =>
    ⟨.info, "原生加密后端初始化时 panic，回退到可移植后端",
      [("backend", backend), ("fallback", fallback)]⟩
  | .contextReady backend protocols clientAuth =>
    ⟨.info, "MiniSSL 上下文已就绪",
      [("backend", backend), ("protocols", bracketed (protocols.map (·.name))),
        ("client_auth", clientAuth.name)]⟩
  | .reloaded backend => ⟨.info, "MiniSSL 配置已热更新", [("backend", backend)]⟩

def ofNotices (notices : List Notice) : List Entry :=
  notices.map ofNotice

end Log

end RecordLayer
