import OnecRuntime.SourceMaps.Segments

/-!
# Global namespaces of the platform

The names, casefolded, that notebook lowering and Worker binding leave to the
platform.
-/

namespace OnecRuntime.Bsl

open OnecRuntime.SourceMaps (Text)

/-- `NOTEBOOK_PLATFORM_GLOBALS`. -/
def notebookPlatformGlobals : List Text :=
  ["статуссообщения", "режимзаписидокумента", "символы", "кодировкатекста", "справочники",
    "документы", "журналыдокументов", "регистрысведений", "регистрынакопления",
    "регистрыбухгалтерии", "регистрырасчета", "планывидовхарактеристик", "планысчетов",
    "планывидоврасчета", "планыобмена", "бизнеспроцессы", "задачи", "критерииотбора",
    "последовательности", "константы", "перечисления", "внешниеобработки", "внешниеотчеты",
    "обработки", "отчеты", "метаданные", "параметрысеанса"].map String.toList

/-- The namespaces that Worker modules admit on top of these. -/
def workerOnlyPlatformGlobals : List Text :=
  ["частидаты", "обходрезультатазапроса", "видсравнениякомпоновкиданных",
    "типгруппыэлементовотборакомпоновкиданных", "цветастиля"].map String.toList

/-- `WORKER_PLATFORM_GLOBALS`. -/
def workerPlatformGlobals : List Text := notebookPlatformGlobals ++ workerOnlyPlatformGlobals

end OnecRuntime.Bsl
