import Interception.Pointcut
import Interception.Value

/-!
# Errors of intercepted calls

An error of an intercepted call tells who is to blame: the configuration, an advice that misused
`proceed`, the target, an advice, an argument of the wrong type or a result of the wrong type. Errors
of targets and advices keep the error that caused them, so that a caller gets the target's own error
back when nothing else went wrong.
-/

namespace Interception

/-- What is wrong with one option of an aspect. -/
inductive OptionFault where
  /-- A text that must not be empty is empty. -/
  | empty
  /-- A rate is below zero. -/
  | belowZero
  /-- A rate is above one. -/
  | aboveOne
  /-- A name has a character that names of meters must not have, or none at all. -/
  | badMeterName
  deriving DecidableEq

/-- The words in which a fault of an option is reported. -/
def OptionFault.message : OptionFault → String
  | empty => "length is lower than 1"
  | belowZero => "lower than 0"
  | aboveOne => "greater than 1"
  | badMeterName => "does not match pattern /^[a-zA-Z_][a-zA-Z0-9_]*$/"

/-- What is wrong with a configuration. -/
inductive Misconfiguration where
  /-- A fault described by its text alone. -/
  | custom (text : String)
  /-- A malformed pointcut. -/
  | pointcut (expression : String) (fault : Pointcut.Fault)
  /-- A malformed type pattern. -/
  | typePattern (text : String) (fault : TypePattern.Fault)
  /-- An aspect without a name. -/
  | blankAspect
  /-- An aspect whose name is taken. -/
  | repeatedAspect (name : String)
  /-- A capability without a name. -/
  | blankCapability
  /-- A capability introduced twice for types that may coincide. -/
  | overlappingCapability (name existing new : String)
  /-- A target type without a name. -/
  | blankTarget
  /-- A method declared twice under one interface. -/
  | repeatedMethod (interface method : String)
  /-- A capability with the name of an exposed interface. -/
  | capabilityIsInterface (capability targetType : String)
  /-- A method that a proxy does not have. -/
  | unknownMethod (targetType interface method : String)
  /-- A method identifier of another proxy. -/
  | foreignMethod (index : Nat) (targetType : String)
  /-- A registration after publication. -/
  | published (name : String)
  /-- Options that an aspect type does not accept, by name in increasing order. -/
  | invalidOptions (aspectType : String) (faults : List (String × OptionFault))
  deriving DecidableEq

/-- The words in which a misconfiguration is reported. -/
def Misconfiguration.message : Misconfiguration → String
  | custom text => text
  | pointcut expression fault => Pointcut.invalidMessage expression fault
  | typePattern text fault => TypePattern.invalidMessage text fault
  | blankAspect => "切面名不能为空"
  | repeatedAspect name => "切面 '" ++ name ++ "' 重复注册"
  | blankCapability => "能力接口名不能为空"
  | overlappingCapability name existing new =>
    "能力 '" ++ name ++ "' 已为 '" ++ existing ++ "' 引入，与 '" ++ new ++ "' 重叠"
  | blankTarget => "目标类型名不能为空"
  | repeatedMethod interface method => "接口 '" ++ interface ++ "' 的方法 '" ++ method ++ "' 重复声明"
  | capabilityIsInterface capability targetType =>
    "能力 '" ++ capability ++ "' 与 '" ++ targetType ++ "' 已暴露的接口同名"
  | unknownMethod targetType interface method =>
    "代理 '" ++ targetType ++ "' 的接口 '" ++ interface ++ "' 没有方法 '" ++ method ++ "'"
  | foreignMethod index targetType =>
    "方法下标 " ++ toString index ++ " 不属于代理 '" ++ targetType ++ "'"
  | published name => "注册表已发布，不能再注册 '" ++ name ++ "'"
  | invalidOptions aspectType faults =>
    aspectType ++ " 配置无效: " ++ String.join (faults.map fun f => f.1 ++ ": " ++ f.2.message ++ "\n")

/-- How `proceed` was misused. -/
inductive Misuse where
  /-- A misuse described by its text alone. -/
  | custom (text : String)
  /-- No advice is running. -/
  | noAdvice
  /-- The running advice is no around advice. -/
  | notAround
  /-- The running advice had proceeded before. -/
  | repeated
  /-- The advice failed without having proceeded. -/
  | unproceeded
  /-- The target had been entered before. -/
  | targetTaken
  deriving DecidableEq

/-- The words in which a misuse is reported. -/
def Misuse.message : Misuse → String
  | custom text => text
  | noAdvice => "没有正在执行的 around 通知"
  | notAround => "只有 around 通知可以调用 proceed"
  | repeated => "proceed 被多次调用"
  | unproceeded => "未调用 proceed 且自身失败"
  | targetTaken => "目标方法已被调用"

/-- The error type of the services that are called through proxies. -/
inductive ServiceError where
  /-- No user has the identifier. -/
  | notFound (id : UInt64)
  /-- A failure described by its text. -/
  | custom (text : String)
  /-- An error of the interception, by its message. -/
  | aop (text : String)
  deriving DecidableEq

/-- The message of a service error. -/
def ServiceError.message : ServiceError → String
  | notFound id => "user " ++ toString id.toNat ++ " not found"
  | custom text => "svc: " ++ text
  | aop text => "aop: " ++ text

/-- The description of a service error. -/
def ServiceError.describe : ServiceError → String
  | notFound id => Text.describeTagged "NotFound" [toString id.toNat]
  | custom text => Text.describeTagged "Custom" [Text.quoted text]
  | aop text => Text.describeTagged "Aop" [Text.quoted text]

mutual

/-- An error of an intercepted call. -/
inductive AopError where
  /-- The configuration is wrong. -/
  | configuration (fault : Misconfiguration)
  /-- An advice misused `proceed`; `source` is the error it returned itself. -/
  | proceedMisuse (advice : String) (misuse : Misuse) (source : Option AopError)
  /-- The target failed. -/
  | target (cause : Cause)
  /-- An advice failed. -/
  | advice (name : String) (cause : Cause)
  /-- An argument does not have the type that the target expects. -/
  | argument (index : Nat) (expected actual : String)
  /-- A result does not have the type that the caller expects. -/
  | returnType (expected actual : String)

/-- The error behind a failure of a target or an advice. -/
inductive Cause where
  /-- An error that is its text. -/
  | text (text : String)
  /-- An error of the service. -/
  | service (error : ServiceError)
  /-- An error of another kind, by its text. -/
  | other (text : String)
  /-- An error of an intercepted call. -/
  | aop (error : AopError)

end

mutual

/-- The message of an error. -/
def AopError.message : AopError → String
  | .configuration fault => "配置错误: " ++ fault.message
  | .proceedMisuse advice misuse _ => "proceed 使用错误 [" ++ advice ++ "]: " ++ misuse.message
  | .target cause => "目标方法异常: " ++ cause.message
  | .advice name cause => "通知异常 [" ++ name ++ "]: " ++ cause.message
  | .argument index expected actual =>
    "参数错误 [" ++ toString index ++ "]: 期望 " ++ expected ++ ", 实际 " ++ actual
  | .returnType expected actual => "返回值类型错误: 期望 " ++ expected ++ ", 实际 " ++ actual

/-- The message of a cause. -/
def Cause.message : Cause → String
  | .text text => text
  | .service error => error.message
  | .other text => "other: " ++ text
  | .aop error => error.message

end

mutual

/-- The messages of the errors behind an error, from the nearest to the first. -/
def AopError.causes : AopError → List String
  | .proceedMisuse _ _ (some source) => source.message :: source.causes
  | .target cause => cause.message :: cause.causes
  | .advice _ cause => cause.message :: cause.causes
  | _ => []

/-- The messages of the errors behind a cause. -/
def Cause.causes : Cause → List String
  | .aop error => error.causes
  | _ => []

end

mutual

/-- The description of an error. -/
def AopError.describe : AopError → String
  | .configuration fault => Text.describeTagged "Configuration" [Text.quoted fault.message]
  | .proceedMisuse advice misuse none =>
    Text.describeRecord "ProceedMisuse"
      [("advice", Text.quoted advice), ("message", Text.quoted misuse.message),
       ("source", Text.describeOption none)]
  | .proceedMisuse advice misuse (some source) =>
    Text.describeRecord "ProceedMisuse"
      [("advice", Text.quoted advice), ("message", Text.quoted misuse.message),
       ("source", Text.describeOption (some source.describe))]
  | .target cause => Text.describeTagged "Target" [cause.describe]
  | .advice name cause =>
    Text.describeRecord "Advice" [("advice", Text.quoted name), ("source", cause.describe)]
  | .argument index expected actual =>
    Text.describeRecord "Argument"
      [("index", toString index), ("expected", Text.quoted expected), ("actual", Text.quoted actual)]
  | .returnType expected actual =>
    Text.describeRecord "ReturnType"
      [("expected", Text.quoted expected), ("actual", Text.quoted actual)]

/-- The description of a cause. -/
def Cause.describe : Cause → String
  | .text text => Text.quoted text
  | .service error => error.describe
  | .other text => Text.describeTagged "OtherErr" [Text.quoted text]
  | .aop error => error.describe

end

namespace AopError

/-- Whether the target failed. -/
def isTarget : AopError → Bool
  | target _ => true
  | _ => false

/-- Whether an advice misused `proceed`. -/
def isProceedMisuse : AopError → Bool
  | proceedMisuse _ _ _ => true
  | _ => false

/-- The error behind a failure of the target. -/
def targetCause? : AopError → Option Cause
  | target cause => some cause
  | _ => none

/-- The service error behind a failure of the target. -/
def serviceError? : AopError → Option ServiceError
  | target (.service error) => some error
  | _ => none

/-- The error as a service error: the target's own error as it is, every other error by its message. -/
def toServiceError (error : AopError) : ServiceError :=
  error.serviceError?.getD (.aop error.message)

/-- The error for a malformed pointcut. -/
def ofPointcutFault (fault : String × Pointcut.Fault) : AopError :=
  configuration (.pointcut fault.1 fault.2)

/-- The error for a malformed type pattern. -/
def ofTypePatternFault (fault : String × TypePattern.Fault) : AopError :=
  configuration (.typePattern fault.1 fault.2)

end AopError

end Interception
